import Rind.Core.Error
import Rind.Core.Registry
import Rind.Prog.Runs

/-!
# The name index

The index of a type holds the position of each item in its group, under the name of
the item without its page.  It is right as long as every page that has the name has
it at that position, and as long as there is one at all where a page has items.
-/

namespace Rind

open Runs

/-! ## Changing the registry -/

/-- A page with the items that a source file has for a group, if it has any. -/
def Metadata.collect {M : Type} (page : Metadata M) (group : Ustr) : Option (List M) → Metadata M
  | some items => { page with values := page.values.insert group items }
  | none => page

namespace MetadataRegistry

section Changes

variable {M : Type} (registry : MetadataRegistry M)

def insertMetadata (page : Metadata M) : MetadataRegistry M :=
  { registry with metadata := registry.metadata.insert page.name page }

/-- Load a group into a page, where `parsed` is what the source file holds. The page
need not be one of the registry. -/
def loadGroupFromToml (page : Metadata M) (group : Ustr)
    (parsed : Except CoreError (Option (List M))) :
    Except CoreError (Metadata M) × MetadataRegistry M :=
  match parsed with
  | .error error => (.error error, registry)
  | .ok items => (.ok (page.collect group items), { registry with index := none })

def removeMetadata (metadata : Ustr) : MetadataRegistry M :=
  if metadata ∈ registry.metadata then
    { metadata := registry.metadata.erase metadata, index := none }
  else registry

/-- Nothing is loaded. -/
def empty (M : Type) : MetadataRegistry M where
  metadata := ∅
  index := none

end Changes

end MetadataRegistry

/-- An operation that changes the registry. -/
inductive RegistryAction (M : Type) where
  | insertMetadata (page : Metadata M)
  | loadGroupFromToml (page : Metadata M) (group : Ustr)
      (parsed : Except CoreError (Option (List M)))
  | ensureIndexForType (metadata : Ustr)
  | removeMetadata (metadata : Ustr)

section Indexing

variable {M : Type} [NamedItem M]

def registryStep (registry : MetadataRegistry M) : RegistryAction M → MetadataRegistry M
  | .insertMetadata page => registry.insertMetadata page
  | .loadGroupFromToml page group parsed => (registry.loadGroupFromToml page group parsed).2
  | .ensureIndexForType metadata => (registry.ensureIndexForType metadata).getD registry
  | .removeMetadata metadata => registry.removeMetadata metadata

/-! ## Pages and positions -/

/-- A page has no item of the name. -/
def Metadata.Lacks (page : Metadata M) (name : Ustr) : Prop :=
  ∀ items ∈ page.values.lookup (parseScopedName name).parent,
    ∀ item ∈ items, NamedItem.name item ≠ (parseScopedName name).child

/-- If a page has the name, or anything else at the position, it has the name there
first. -/
def Metadata.Agrees (page : Metadata M) (name : Ustr) (position : Nat) : Prop :=
  ∀ items ∈ page.values.lookup (parseScopedName name).parent,
    items[position]? =
      items.find? fun item => NamedItem.name item = (parseScopedName name).child

/-- The page has an item of the full name at the position of its group. -/
def Metadata.Lists (page : Metadata M) (name : Ustr) (position : Nat) : Prop :=
  ∃ group items item, page.values.lookup group = some items ∧ items[position]? = some item ∧
    name = rslvns group (NamedItem.name item)

/-- What an operation must find for the index to be right afterwards. -/
def RegistryAction.KeepsIndex (registry : MetadataRegistry M) : RegistryAction M → Prop
  | .insertMetadata page =>
      page.name ≠ "*" ∧
        match registry.index with
        | none => ∀ name, page.Lacks name
        | some index => ∀ name position, index.lookup name = some position →
            page.Agrees name position
  | .loadGroupFromToml _ _ parsed =>
      parsed.isOk → ∀ key page, registry.metadata.lookup key = some page → ∀ name, page.Lacks name
  | .ensureIndexForType metadata =>
      ∀ indexed ∈ registry.metadata.lookup metadata, ∀ name position,
        indexed.Lists name position →
          ∀ key page, registry.metadata.lookup key = some page → page.Agrees name position
  | .removeMetadata metadata =>
      metadata ∈ registry.metadata → ∀ key page, key ≠ metadata →
        registry.metadata.lookup key = some page → ∀ name, page.Lacks name

/-! ## A right index -/

/-- The index lists positions at which every page agrees, and is there where a page
has items. -/
structure MetadataRegistry.Indexed (registry : MetadataRegistry M) : Prop where
  plain : "*" ∉ registry.metadata
  built : registry.index = none → ∀ key page, registry.metadata.lookup key = some page →
    ∀ name, page.Lacks name
  right : ∀ index ∈ registry.index, ∀ name position, index.lookup name = some position →
    ∀ key page, registry.metadata.lookup key = some page → page.Agrees name position

namespace MetadataRegistry

variable {registry : MetadataRegistry M}

omit [NamedItem M] in
theorem resolveMetadataKey_of_mem {metadata : Ustr} (plain : metadata ≠ "*")
    (loaded : metadata ∈ registry.metadata) (name : Ustr) :
    registry.resolveMetadataKey metadata name = metadata := by
  rw [resolveMetadataKey, if_neg plain, if_pos loaded]

omit [NamedItem M] in
/-- What a key resolves to is loaded, or the key itself. -/
theorem resolveMetadataKey_cases (metadata name : Ustr) :
    registry.resolveMetadataKey metadata name ∈ registry.metadata ∨
      registry.resolveMetadataKey metadata name = metadata := by
  rw [resolveMetadataKey]
  split
  · split
    · exact .inl ‹_›
    · split
      · exact .inl ‹_›
      · split
        · exact .inl ‹_›
        · cases pages : registry.metadata.keys with
          | nil => exact .inr rfl
          | cons first rest =>
              refine .inl (AList.mem_keys.mpr ?_)
              rw [pages]
              exact List.mem_cons_self
  · split
    · exact .inl ‹_›
    · split
      · exact .inl ‹_›
      · exact .inr rfl

omit [NamedItem M] in
/-- What a key resolves to is resolved. -/
theorem resolveMetadataKey_idem (plain : "*" ∉ registry.metadata) (metadata name : Ustr) :
    registry.resolveMetadataKey (registry.resolveMetadataKey metadata name) name =
      registry.resolveMetadataKey metadata name := by
  rcases resolveMetadataKey_cases metadata name with loaded | same
  · refine resolveMetadataKey_of_mem ?_ loaded name
    intro star
    exact plain (star ▸ loaded)
  · rw [same, same]

omit [NamedItem M] in
/-- The items of a group on a loaded page. -/
theorem groupItems_of_lookup {metadata group : Ustr} {page : Metadata M}
    (plain : metadata ≠ "*") (loaded : registry.metadata.lookup metadata = some page) :
    registry.groupItems metadata group = page.values.lookup group := by
  rw [groupItems, if_neg plain, loaded]
  rfl

omit [NamedItem M] in
/-- No page, no items. -/
theorem groupItems_of_notMem {metadata name group : Ustr} (plain : "*" ∉ registry.metadata)
    (absent : registry.resolveMetadataKey metadata name ∉ registry.metadata) :
    (registry.groupItems (registry.resolveMetadataKey metadata name) group).getD [] = [] := by
  rw [groupItems]
  split
  · next star =>
      -- the key `*` is left as it is only where there are no pages
      have none_ : registry.metadata.entries = [] := by
        rw [resolveMetadataKey] at star
        split at star
        · split at star
          · exact absurd (star ▸ ‹_›) plain
          · split at star
            · simp at star
            · split at star
              · simp at star
              · cases pages : registry.metadata.keys with
                | nil => exact List.map_eq_nil_iff.mp pages
                | cons first rest =>
                    rw [pages] at star
                    have first_eq : first = "*" := star
                    have member : "*" ∈ registry.metadata.keys := by
                      rw [pages, first_eq]
                      exact List.mem_cons_self
                    exact absurd (AList.mem_keys.mpr member) plain
        · split at star
          · contradiction
          · split at star
            · exact absurd (star ▸ ‹_›) plain
            · contradiction
      rw [none_]
      rfl
  · rw [AList.lookup_eq_none.mpr absent]
    rfl

omit [NamedItem M] in
/-- What the items of a group are searched for. -/
theorem bind_eq_of_getD {α : Type} {items : Option (List M)} {search : List M → Option α}
    (empty : search [] = none) : items.bind search = search (items.getD []) := by
  cases items with
  | none => exact empty.symm
  | some items => rfl

/-- The items that a name is searched in. -/
def searched (registry : MetadataRegistry M) (metadata name : Ustr) : List M :=
  (registry.groupItems (registry.resolveMetadataKey metadata name)
    (parseScopedName name).parent).getD []

omit [NamedItem M] in
/-- They are none, or those of the page that the name refers to. -/
theorem searched_cases (plain : "*" ∉ registry.metadata) (metadata name : Ustr) :
    registry.searched metadata name = [] ∨
      ∃ page, registry.metadata.lookup (registry.resolveMetadataKey metadata name) = some page ∧
        page.values.lookup (parseScopedName name).parent =
          some (registry.searched metadata name) := by
  rw [searched]
  by_cases loaded : registry.resolveMetadataKey metadata name ∈ registry.metadata
  · obtain ⟨page, found⟩ := Option.isSome_iff_exists.mp (AList.lookup_isSome.mpr loaded)
    have named : registry.resolveMetadataKey metadata name ≠ "*" :=
      fun star => plain (star ▸ loaded)
    rw [groupItems_of_lookup named found]
    cases listed : page.values.lookup (parseScopedName name).parent with
    | none => exact .inl rfl
    | some items => exact .inr ⟨page, found, listed⟩
  · exact .inl (groupItems_of_notMem plain loaded)

omit [NamedItem M] in
/-- If the page has the group, they are its items. -/
theorem searched_of_lookup (plain : "*" ∉ registry.metadata) {metadata name : Ustr}
    {page : Metadata M} {items : List M}
    (loaded : registry.metadata.lookup (registry.resolveMetadataKey metadata name) = some page)
    (held : page.values.lookup (parseScopedName name).parent = some items) :
    registry.searched metadata name = items := by
  have named : registry.resolveMetadataKey metadata name ≠ "*" :=
    fun star => plain (star ▸ AList.lookup_isSome.mp (by rw [loaded]; rfl))
  rw [searched, groupItems_of_lookup named loaded, held]
  rfl

theorem lookup_eq (metadata name : Ustr) :
    registry.lookup metadata name = (registry.searched metadata name).find? fun item =>
      NamedItem.name item = (parseScopedName name).child :=
  bind_eq_of_getD rfl

/-- The index leads to a position, and where it does not list the name, the first item
of the name is searched for. -/
theorem find_eq (plain : "*" ∉ registry.metadata) (metadata name : Ustr) :
    registry.find metadata name = registry.index.bind fun index =>
      match index.lookup name with
      | some position => (registry.searched metadata name)[position]?
      | none => registry.lookup metadata name := by
  have again : registry.lookup (registry.resolveMetadataKey metadata name) name =
      registry.lookup metadata name := by
    rw [lookup, lookup, resolveMetadataKey_idem plain metadata name]
  simp only [find, Option.bind_eq_bind]
  refine congrArg registry.index.bind (funext fun index => ?_)
  cases index.lookup name with
  | none => exact again
  | some position => exact bind_eq_of_getD List.getElem?_nil

/-- With a right index, the indexed search finds what the plain search does. -/
theorem Indexed.find_eq_lookup (indexed : registry.Indexed) (metadata name : Ustr) :
    registry.find metadata name = registry.lookup metadata name := by
  have items := searched_cases indexed.plain metadata name
  rw [find_eq indexed.plain]
  cases index_eq : registry.index with
  | none =>
      rw [Option.bind_none, lookup_eq, eq_comm]
      rcases items with none_ | ⟨page, loaded, held⟩
      · rw [none_]
        rfl
      · rw [List.find?_eq_none]
        intro item member
        simpa using indexed.built index_eq _ page loaded name _ held item member
  | some index =>
      rw [Option.bind_some]
      cases listed : index.lookup name with
      | none => rfl
      | some position =>
          rw [lookup_eq]
          rcases items with none_ | ⟨page, loaded, held⟩
          · rw [none_]
            rfl
          · exact indexed.right index index_eq name position listed _ page loaded _ held

/-! ## Building and keeping the index -/

/-- What is listed after an item has been indexed is that item or was listed. -/
theorem lookup_insert_cases {index : AList fun _ : Ustr => Nat} {name listed : Ustr}
    {position at_ : Nat} (found : (index.insert listed at_).lookup name = some position) :
    name = listed ∧ position = at_ ∨ index.lookup name = some position := by
  by_cases same : name = listed
  · subst same
    rw [AList.lookup_insert, Option.some_inj] at found
    exact .inl ⟨rfl, found.symm⟩
  · rw [AList.lookup_insert_ne same] at found
    exact .inr found

/-- The same for the items of a group. -/
theorem lookup_insertItems_cases {group name : Ustr} {position : Nat} {items : List (M × Nat)}
    {index : AList fun _ : Ustr => Nat}
    (found : (items.foldl (fun index item =>
      index.insert (rslvns group (NamedItem.name item.1)) item.2) index).lookup name =
        some position) :
    (∃ item, (item, position) ∈ items ∧ name = rslvns group (NamedItem.name item)) ∨
      index.lookup name = some position := by
  induction items generalizing index with
  | nil => exact .inr found
  | cons first rest ih =>
      rw [List.foldl_cons] at found
      rcases ih found with ⟨item, member, named⟩ | found
      · exact .inl ⟨item, List.mem_cons_of_mem _ member, named⟩
      · rcases lookup_insert_cases found with ⟨rfl, rfl⟩ | found
        · exact .inl ⟨first.1, List.mem_cons_self, rfl⟩
        · exact .inr found

/-- A name that is listed after a page was indexed was listed before, or is listed on
the page. -/
theorem listed_ensureIndexForType {metadata : Ustr} {after : MetadataRegistry M}
    (ensured : registry.ensureIndexForType metadata = some after) :
    after.metadata = registry.metadata ∧
      ∃ page index, registry.metadata.lookup metadata = some page ∧ after.index = some index ∧
        ∀ name position, index.lookup name = some position →
          page.Lists name position ∨ (registry.index.getD ∅).lookup name = some position := by
  simp only [ensureIndexForType, Option.bind_eq_bind, Option.bind_eq_some_iff,
    Option.some_inj] at ensured
  obtain ⟨page, loaded, rfl⟩ := ensured
  refine ⟨rfl, page, _, loaded, rfl, ?_⟩
  have whole : ∀ group ∈ page.values.entries, page.values.lookup group.1 = some group.2 :=
    fun group member => AList.mem_lookup_iff.mpr member
  generalize page.values.entries = groups at whole ⊢
  generalize registry.index.getD ∅ = base
  induction groups generalizing base with
  | nil => exact fun name position found => .inr found
  | cons group rest ih =>
      obtain ⟨here, others⟩ := List.forall_mem_cons.mp whole
      intro name position found
      rw [List.foldl_cons] at found
      rcases ih others _ name position found with listed | found
      · exact .inl listed
      · rcases lookup_insertItems_cases found with ⟨item, member, named⟩ | found
        · exact .inl ⟨group.1, group.2, item, here, List.mem_zipIdx_iff_getElem?.mp member, named⟩
        · exact .inr found

/-- An operation that finds what it must keeps the index right. -/
theorem Indexed.step {action : RegistryAction M} (indexed : registry.Indexed)
    (keeps : action.KeepsIndex registry) : (registryStep registry action).Indexed := by
  cases action with
  | insertMetadata page =>
      obtain ⟨named, holds⟩ := keeps
      have pages {P : Metadata M → Prop} (new : P page)
          (old : ∀ key other, registry.metadata.lookup key = some other → P other) :
          ∀ key other, (registry.metadata.insert page.name page).lookup key = some other →
            P other := by
        intro key other found
        by_cases same : key = page.name
        · rw [same, AList.lookup_insert, Option.some_inj] at found
          exact found ▸ new
        · rw [AList.lookup_insert_ne same] at found
          exact old key other found
      refine ⟨?_, ?_, ?_⟩
      · rw [registryStep, insertMetadata, AList.mem_insert, not_or]
        exact ⟨Ne.symm named, indexed.plain⟩
      · intro unbuilt
        have unbuilt : registry.index = none := unbuilt
        rw [unbuilt] at holds
        exact pages holds (indexed.built unbuilt)
      · intro index built name position listed
        have built : registry.index = some index := built
        rw [built] at holds
        exact pages (holds name position listed) (indexed.right index built name position listed)
  | loadGroupFromToml page group parsed =>
      cases parsed with
      | error error => exact indexed
      | ok items => exact ⟨indexed.plain, fun _ => keeps rfl, fun index built => by cases built⟩
  | ensureIndexForType metadata =>
      cases ensured : registry.ensureIndexForType metadata with
      | none =>
          rw [registryStep, ensured]
          exact indexed
      | some after =>
          rw [registryStep, ensured, Option.getD_some]
          obtain ⟨pages, page, index, loaded, built, listed⟩ := listed_ensureIndexForType ensured
          refine ⟨pages ▸ indexed.plain, ?_, ?_⟩
          · rw [built]
            exact fun unbuilt => by cases unbuilt
          · intro other same name position found
            obtain rfl : index = other := Option.some.inj (built.symm.trans same)
            rw [pages]
            rcases listed name position found with new | old
            · exact keeps page loaded name position new
            · cases before : registry.index with
              | none =>
                  rw [before, Option.getD_none, AList.lookup_empty] at old
                  cases old
              | some index =>
                  rw [before, Option.getD_some] at old
                  exact indexed.right index before name position old
  | removeMetadata metadata =>
      rw [registryStep, removeMetadata]
      split
      · next loaded =>
          have kept : ∀ key page, (registry.metadata.erase metadata).lookup key = some page →
              key ≠ metadata ∧ registry.metadata.lookup key = some page := by
            intro key page found
            by_cases same : key = metadata
            · rw [same, AList.lookup_erase] at found
              cases found
            · exact ⟨same, by rwa [AList.lookup_erase_ne same] at found⟩
          refine ⟨fun member => indexed.plain (AList.mem_erase.mp member).2, ?_, ?_⟩
          · intro _ key page found
            obtain ⟨apart, found⟩ := kept key page found
            exact keeps loaded key page apart found
          · exact fun index built => by cases built
      · exact indexed

theorem indexed_empty : (MetadataRegistry.empty M).Indexed where
  plain := AList.notMem_empty _
  built _ key page found := by cases found
  right index built := by cases built

end MetadataRegistry

/-- In every state of a run from an empty registry, the indexed search finds what the
plain search does. -/
def FindsAll (actions : List (RegistryAction M)) : Prop :=
  ∀ before, before <+: actions → ∀ metadata name,
    (Runs.run registryStep (.empty M) before).find metadata name =
      (Runs.run registryStep (.empty M) before).lookup metadata name

/-- It does so where all operations find what they must. -/
theorem finds_all {actions : List (RegistryAction M)}
    (keeps : Along registryStep (fun registry action => action.KeepsIndex registry)
      (MetadataRegistry.empty M) actions) : FindsAll actions := by
  rintro before ⟨after, rfl⟩ metadata name
  have kept : ∀ (registry : MetadataRegistry M) (action : RegistryAction M), registry.Indexed →
      action.KeepsIndex registry → (registryStep registry action).Indexed :=
    fun registry action indexed keeps => indexed.step keeps
  have indexed : (Runs.run registryStep (.empty M) before).Indexed :=
    (Along.append.mp keeps).1.invariant kept MetadataRegistry.indexed_empty
  exact indexed.find_eq_lookup metadata name

end Indexing

/-! ## Pages with one group -/

/-- A page with the group `app`. -/
def samplePage (name : Ustr) (items : List SampleItem) : Metadata SampleItem where
  name := name
  values := AList.insert "app" items ∅

/-- An index that is built before there are items, and again when they have come. -/
def builtEarly : List (RegistryAction SampleItem) :=
  [.insertMetadata ⟨"static", ∅⟩, .ensureIndexForType "static",
    .insertMetadata (samplePage "static" [⟨"web"⟩]), .ensureIndexForType "static"]

/-- What is listed on a page with one item. -/
theorem samplePage_lists {page name : Ustr} {item : SampleItem} {position : Nat}
    (lists : (samplePage page [item]).Lists name position) :
    position = 0 ∧ name = rslvns "app" item.name := by
  obtain ⟨group, items, listed, found, at_, rfl⟩ := lists
  have same : group = "app" := by
    by_contra other
    have absent : (samplePage page [item]).values.lookup group = none :=
      (AList.lookup_insert_ne other).trans (AList.lookup_empty group)
    rw [absent] at found
    cases found
  subst same
  obtain rfl : [item] = items := by
    rw [samplePage, AList.lookup_insert, Option.some_inj] at found
    exact found
  cases position with
  | zero =>
      cases at_
      exact ⟨rfl, rfl⟩
  | succ position => simp at at_

theorem finds_all_builtEarly : FindsAll builtEarly := by
  refine finds_all ⟨⟨by decide, ?_⟩, ?_, ⟨by decide, ?_⟩, ?_, trivial⟩
  · intro name items found
    cases found
  · intro indexed loaded name position lists
    cases loaded
    obtain ⟨group, items, item, found, -⟩ := lists
    cases found
  · intro name position found
    cases found
  · intro indexed loaded name position lists key page found
    let loaded_ : AList fun _ : Ustr => Metadata SampleItem :=
      AList.insert "static" (samplePage "static" [⟨"web"⟩]) (AList.insert "static" ⟨"static", ∅⟩ ∅)
    have pages : ∀ key page, loaded_.lookup key = some page →
        page = samplePage "static" [⟨"web"⟩] := by
      intro key page found
      by_cases same : key = "static"
      · rw [same, AList.lookup_insert, Option.some_inj] at found
        exact found.symm
      · rw [AList.lookup_insert_ne same, AList.lookup_insert_ne same, AList.lookup_empty] at found
        cases found
    obtain rfl := pages _ _ loaded
    obtain rfl := pages key page found
    obtain ⟨rfl, rfl⟩ := samplePage_lists lists
    intro items held
    obtain rfl : [⟨"web"⟩] = items := Option.some.inj held
    decide +kernel

/-- Two pages with the same items in a different order. -/
def builtTwice : List (RegistryAction SampleItem) :=
  [.insertMetadata (samplePage "static" [⟨"web"⟩, ⟨"db"⟩]),
    .insertMetadata (samplePage "alice" [⟨"db"⟩, ⟨"web"⟩]),
    .ensureIndexForType "static", .ensureIndexForType "alice"]

/-- The position on the page that is indexed last is taken for the one on the other. -/
theorem not_finds_all_twice : ¬ FindsAll builtTwice := by
  intro all
  have wrong : (Runs.run registryStep (.empty SampleItem) builtTwice).find "*" "app:web" ≠
      (Runs.run registryStep (.empty SampleItem) builtTwice).lookup "*" "app:web" := by
    decide +kernel
  exact wrong (all builtTwice List.prefix_rfl "*" "app:web")

end Rind
