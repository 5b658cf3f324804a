import Rind.Core.Indexing
import Rind.Core.Instances

/-!
# Scopes of names

A name with a scope is meant to lead into that scope only.  It does so while the
scope is loaded.  When it is not, another page stands in for it, and what has been
instantiated is still there.
-/

namespace Rind

open Runs

/-! ## The registry with its instances -/

/-- An instance, and the page that its definition was found on. -/
structure Homed (T : Type) where
  value : T
  home : Ustr

/-- The definitions and the instances of one type. -/
structure ScopedSystem (M T : Type) where
  registry : MetadataRegistry M
  instances : InstanceMap fun _ : Unit => Homed T

inductive ScopedAction (M T : Type) where
  | change (action : RegistryAction M)
  | find (metadata name : Ustr)
  | lookup (metadata name : Ustr)
  | instantiate (metadata name : Ustr) (make : M → Except CoreError T)
  | instantiateOne (metadata name : Ustr) (make : M → Except CoreError T)
  | uninstantiate (metadata name : Ustr)
  | asOne (metadata name : Ustr)

section Scopes

variable {M T : Type} [NamedItem M]

/-- An instance is made of a definition on the page that its name refers to. -/
def ScopedSystem.maker (system : ScopedSystem M T) (metadata name : Ustr)
    (make : M → Except CoreError T) (item : M) : Except CoreError (Homed T) :=
  (make item).map (⟨·, system.registry.resolveMetadataKey metadata name⟩)

def scopedStep (system : ScopedSystem M T) : ScopedAction M T → ScopedSystem M T
  | .change action => { system with registry := registryStep system.registry action }
  | .find .. | .lookup .. | .asOne .. => system
  | .instantiate metadata name make =>
      { system with
        instances := (system.instances.instantiate system.registry () metadata name
          (system.maker metadata name make)).2 }
  | .instantiateOne metadata name make =>
      { system with
        instances := (system.instances.instantiateOne system.registry () metadata name
          (system.maker metadata name make)).2 }
  | .uninstantiate metadata name =>
      { system with
        instances := (system.instances.uninstantiate system.registry () metadata name).2 }

/-! ## Leading into the scope -/

/-- The scope of a name. -/
def scopeIn (name : Ustr) : Ustr := (parseScopedName name).scope

/-- A full name, with the key `*` or that of its scope. -/
def FullyScoped (metadata name : Ustr) : Prop :=
  '@' ∈ name.toList ∧ ':' ∈ name.toList ∧ (metadata = "*" ∨ metadata = scopeIn name)

/-- An item of the page of a scope. -/
def MetadataRegistry.Owns (registry : MetadataRegistry M) (scope : Ustr) (item : M) : Prop :=
  ∃ page group items, registry.metadata.lookup scope = some page ∧
    page.values.lookup group = some items ∧ item ∈ items

/-- What a full name is resolved to belongs to its scope, which is loaded. -/
def ScopedAction.StaysInside (system : ScopedSystem M T) : ScopedAction M T → Prop
  | .change _ | .uninstantiate .. => True
  | .find metadata name => FullyScoped metadata name →
      ∀ item, system.registry.find metadata name = some item →
        system.registry.Owns (scopeIn name) item
  | .lookup metadata name => FullyScoped metadata name →
      ∀ item, system.registry.lookup metadata name = some item →
        system.registry.Owns (scopeIn name) item
  | .instantiate metadata name make => FullyScoped metadata name →
      ∀ made, (system.instances.instantiate system.registry () metadata name
          (system.maker metadata name make)).1 = .ok made →
        made.home = scopeIn name ∧ scopeIn name ∈ system.registry.metadata
  | .instantiateOne metadata name make => FullyScoped metadata name →
      ∀ made, (system.instances.instantiateOne system.registry () metadata name
          (system.maker metadata name make)).1 = .ok made →
        made.home = scopeIn name ∧ scopeIn name ∈ system.registry.metadata
  | .asOne metadata name => FullyScoped metadata name →
      ∀ found, system.instances.asOne system.registry () metadata name = .ok found →
        found.home = scopeIn name ∧ scopeIn name ∈ system.registry.metadata

/-! ## When it does -/

/-- The page that stands in for the scope of a name has no item of that name. -/
def MetadataRegistry.Vacant (registry : MetadataRegistry M) (name : Ustr) : Prop :=
  ∀ page ∈ registry.metadata.lookup (registry.resolveMetadataKey "*" name), page.Lacks name

/-- Nor does the index lead to an item of that page. -/
def MetadataRegistry.Unlisted (registry : MetadataRegistry M) (name : Ustr) : Prop :=
  ∀ index ∈ registry.index,
    match index.lookup name with
    | some position =>
        ∀ page ∈ registry.metadata.lookup (registry.resolveMetadataKey "*" name),
          ∀ items ∈ page.values.lookup (parseScopedName name).parent, items.length ≤ position
    | none => registry.Vacant name

/-- What an operation must find for names to lead into their scopes. -/
def ScopedAction.Sheltered (system : ScopedSystem M T) : ScopedAction M T → Prop
  | .change (.insertMetadata page) => page.name ≠ "*"
  | .change (.removeMetadata metadata) => ∀ name, scopeIn name = metadata →
      system.instances.entry name = []
  | .change _ | .uninstantiate .. | .asOne .. => True
  | .find metadata name => FullyScoped metadata name → metadata = "*" →
      scopeIn name ∈ system.registry.metadata ∨ system.registry.Unlisted name
  | .lookup metadata name => FullyScoped metadata name → metadata = "*" →
      scopeIn name ∈ system.registry.metadata ∨ system.registry.Vacant name
  | .instantiate metadata name _ | .instantiateOne metadata name _ => '@' ∈ name.toList →
      (metadata = "*" ∨ metadata = scopeIn name) ∧
        (scopeIn name ∈ system.registry.metadata ∨
          ':' ∈ name.toList ∧ (metadata = "*" → system.registry.Unlisted name))

/-- Every instance was found on the page of the scope of its name, and that is
loaded. -/
structure ScopedSystem.Home (system : ScopedSystem M T) : Prop where
  plain : "*" ∉ system.registry.metadata
  homes : ∀ name, ∀ box ∈ system.instances.entry name,
    box.2.home = scopeIn name ∧ scopeIn name ∈ system.registry.metadata

namespace MetadataRegistry

variable {registry : MetadataRegistry M} {metadata name : Ustr} {item : M}

omit [NamedItem M] in
/-- A loaded scope is resolved to itself. -/
theorem resolveMetadataKey_scope (plain : "*" ∉ registry.metadata)
    (addressed : metadata = "*" ∨ metadata = scopeIn name)
    (loaded : scopeIn name ∈ registry.metadata) :
    registry.resolveMetadataKey metadata name = scopeIn name := by
  rcases addressed with rfl | rfl
  · rw [resolveMetadataKey, if_pos rfl]
    exact if_pos loaded
  · exact resolveMetadataKey_of_mem (fun star => plain (star ▸ loaded)) loaded name

/-- A found item is one of those that the name is searched in. -/
theorem mem_searched_of_lookup (found : registry.lookup metadata name = some item) :
    item ∈ registry.searched metadata name := by
  rw [lookup_eq] at found
  exact List.mem_of_find?_eq_some found

theorem mem_searched_of_find (plain : "*" ∉ registry.metadata)
    (found : registry.find metadata name = some item) :
    item ∈ registry.searched metadata name := by
  rw [find_eq plain, Option.bind_eq_some_iff] at found
  obtain ⟨index, -, found⟩ := found
  split at found
  · exact List.mem_of_getElem? found
  · exact mem_searched_of_lookup found

omit [NamedItem M] in
/-- The searched items are those of the page that the name refers to. -/
theorem owns_of_mem_searched (plain : "*" ∉ registry.metadata)
    (member : item ∈ registry.searched metadata name) :
    registry.Owns (registry.resolveMetadataKey metadata name) item := by
  rcases searched_cases plain metadata name with none_ | ⟨page, loaded, held⟩
  · rw [none_] at member
    cases member
  · exact ⟨page, _, _, loaded, held, member⟩

omit [NamedItem M] in
theorem Owns.loaded {scope : Ustr} (owns : registry.Owns scope item) :
    scope ∈ registry.metadata := by
  obtain ⟨page, -, -, loaded, -⟩ := owns
  exact AList.lookup_isSome.mp (by rw [loaded]; rfl)

omit [NamedItem M] in
/-- With the key of a scope that is not loaded nothing is searched. -/
theorem searched_eq_nil (plain : "*" ∉ registry.metadata) (other : scopeIn name ≠ "*")
    (unloaded : scopeIn name ∉ registry.metadata) :
    registry.searched (scopeIn name) name = [] := by
  have same : registry.resolveMetadataKey (scopeIn name) name = scopeIn name := by
    rw [resolveMetadataKey, if_neg other, if_neg unloaded]
    exact if_neg unloaded
  rcases searched_cases plain (scopeIn name) name with none_ | ⟨page, loaded, -⟩
  · exact none_
  · exact absurd (AList.lookup_isSome.mp (by rw [loaded]; rfl)) (same ▸ unloaded)

/-- The plain search finds nothing exactly where the page that stands in for the scope
has no item of the name. -/
theorem lookup_eq_none_iff (plain : "*" ∉ registry.metadata) :
    registry.lookup "*" name = none ↔ registry.Vacant name := by
  rw [lookup_eq, List.find?_eq_none]
  constructor
  · intro absent page loaded items held item member same
    rw [searched_of_lookup plain loaded held] at absent
    exact absent item member (decide_eq_true same)
  · intro vacant item member
    rcases searched_cases plain "*" name with none_ | ⟨page, loaded, held⟩
    · rw [none_] at member
      cases member
    · simpa using vacant page loaded _ held item member

/-- The indexed search finds nothing exactly where the index does not lead to an item
either. -/
theorem find_eq_none_iff (plain : "*" ∉ registry.metadata) :
    registry.find "*" name = none ↔ registry.Unlisted name := by
  rw [find_eq plain, Option.bind_eq_none_iff]
  refine forall₂_congr fun index built => ?_
  cases listed : index.lookup name with
  | none => exact lookup_eq_none_iff plain
  | some position =>
      dsimp only
      rw [List.getElem?_eq_none_iff]
      constructor
      · intro short page loaded items held
        rwa [searched_of_lookup plain loaded held] at short
      · intro short
        rcases searched_cases plain "*" name with none_ | ⟨page, loaded, held⟩
        · rw [none_]
          exact Nat.zero_le position
        · exact short page loaded _ held

/-- Nothing is found of a name whose scope is not loaded, unless something stands in for
it. -/
theorem find_eq_none (plain : "*" ∉ registry.metadata)
    (addressed : metadata = "*" ∨ metadata = scopeIn name)
    (unloaded : scopeIn name ∉ registry.metadata)
    (unlisted : metadata = "*" → registry.Unlisted name) : registry.find metadata name = none := by
  by_cases star : metadata = "*"
  · subst star
    exact (find_eq_none_iff plain).mpr (unlisted rfl)
  · obtain rfl := addressed.resolve_left star
    have none_ := searched_eq_nil plain star unloaded
    rw [find_eq plain, Option.bind_eq_none_iff]
    intro index built
    cases index.lookup name with
    | none => rw [lookup_eq, none_, List.find?_nil]
    | some position =>
        rw [none_]
        rfl

theorem lookup_eq_none (plain : "*" ∉ registry.metadata)
    (addressed : metadata = "*" ∨ metadata = scopeIn name)
    (unloaded : scopeIn name ∉ registry.metadata)
    (vacant : metadata = "*" → registry.Vacant name) : registry.lookup metadata name = none := by
  by_cases star : metadata = "*"
  · subst star
    exact (lookup_eq_none_iff plain).mpr (vacant rfl)
  · obtain rfl := addressed.resolve_left star
    rw [lookup_eq, searched_eq_nil plain star unloaded, List.find?_nil]

/-- A full name is made of what is found for it. -/
theorem instantiated_of_grouped (plain : "*" ∉ registry.metadata) (grouped : ':' ∈ name.toList) :
    registry.instantiated metadata name = registry.find metadata name := by
  have same : registry.searched (registry.resolveMetadataKey metadata name) name =
      registry.searched metadata name := by
    rw [searched, searched, resolveMetadataKey_idem plain]
  rw [instantiated, if_pos grouped, find_eq plain, find_eq plain]
  simp only [lookup_eq, same]

/-- What an instance is made of is on a loaded page. -/
theorem loaded_of_instantiated (plain : "*" ∉ registry.metadata)
    (made : registry.instantiated metadata name = some item) :
    registry.resolveMetadataKey metadata name ∈ registry.metadata := by
  by_cases grouped : ':' ∈ name.toList
  · rw [instantiated_of_grouped plain grouped] at made
    exact (owns_of_mem_searched plain (mem_searched_of_find plain made)).loaded
  · simp only [instantiated, if_neg grouped, lookupInAnyGroup, Option.bind_eq_bind,
      Option.bind_eq_some_iff] at made
    obtain ⟨page, loaded, -⟩ := made
    exact AList.lookup_isSome.mp (by rw [loaded]; rfl)

omit [NamedItem M] in
/-- The key of an instance has the scope of the page that a bare name refers to. -/
theorem scopeIn_instanceKey (bare : '@' ∉ name.toList) :
    scopeIn (registry.instanceKey metadata name) = registry.resolveMetadataKey metadata name := by
  have parts : Text.splitOnce '@' (name ++ "@" ++ registry.resolveMetadataKey metadata name) =
      some (name, registry.resolveMetadataKey metadata name) := by
    have whole : (name ++ "@" ++ registry.resolveMetadataKey metadata name).toList =
        name.toList ++ '@' :: (registry.resolveMetadataKey metadata name).toList := by
      simp [String.toList_append]
    rw [Text.splitOnce_of_append bare whole, String.ofList_toList]
  rw [instanceKey, if_neg bare, scopeIn, parseScopedName, parts]
  dsimp only [Option.getD_some]
  split <;> rfl

end MetadataRegistry

namespace ScopedSystem

variable {system : ScopedSystem M T} {metadata name : Ustr} {make : M → Except CoreError T}

/-- A new instance of a name that is sheltered is at home in the scope of its key. -/
theorem Home.made (home : system.Home)
    (sheltered : (ScopedAction.instantiate metadata name make).Sheltered system) {item : M}
    {made : Homed T} (defined : system.registry.instantiated metadata name = some item)
    (made_eq : system.maker metadata name make item = .ok made) :
    made.home = scopeIn (system.registry.instanceKey metadata name) ∧
      made.home ∈ system.registry.metadata := by
  have homed : made.home = system.registry.resolveMetadataKey metadata name := by
    rw [maker] at made_eq
    cases value : make item with
    | error error =>
        rw [value] at made_eq
        cases made_eq
    | ok value' =>
        rw [value] at made_eq
        cases made_eq
        rfl
  rw [homed]
  refine ⟨?_, MetadataRegistry.loaded_of_instantiated home.plain defined⟩
  by_cases full : '@' ∈ name.toList
  · obtain ⟨addressed, loaded | ⟨grouped, vacant⟩⟩ := sheltered full
    · rw [MetadataRegistry.instanceKey_of_scoped full]
      exact MetadataRegistry.resolveMetadataKey_scope home.plain addressed loaded
    · by_cases loaded : scopeIn name ∈ system.registry.metadata
      · rw [MetadataRegistry.instanceKey_of_scoped full]
        exact MetadataRegistry.resolveMetadataKey_scope home.plain addressed loaded
      · rw [MetadataRegistry.instantiated_of_grouped home.plain grouped,
          MetadataRegistry.find_eq_none home.plain addressed loaded vacant] at defined
        cases defined
  · exact (MetadataRegistry.scopeIn_instanceKey full).symm

theorem Home.instantiated (home : system.Home)
    (sheltered : (ScopedAction.instantiate metadata name make).Sheltered system)
    (full : '@' ∈ name.toList) {made : Homed T}
    (ok : (system.instances.instantiate system.registry () metadata name
      (system.maker metadata name make)).1 = .ok made) :
    made.home = scopeIn name ∧ scopeIn name ∈ system.registry.metadata := by
  obtain ⟨item, defined, made_eq⟩ := InstanceMap.instantiate_ok ok
  obtain ⟨homed, loaded⟩ := home.made sheltered defined made_eq
  rw [MetadataRegistry.instanceKey_of_scoped full] at homed
  exact ⟨homed, homed ▸ loaded⟩

theorem Home.instantiate (home : system.Home)
    (sheltered : (ScopedAction.instantiate metadata name make).Sheltered system) :
    (scopedStep system (.instantiate metadata name make)).Home where
  plain := home.plain
  homes := by
    intro other box member
    rcases InstanceMap.mem_entry_instantiate member with old | ⟨rfl, item, made, defined, made_eq, rfl⟩
    · exact home.homes other box old
    · obtain ⟨homed, loaded⟩ := home.made sheltered defined made_eq
      exact ⟨homed, homed ▸ loaded⟩

omit [NamedItem M] in
/-- The pages may change where all scopes stay loaded that have instances. -/
theorem Home.change (home : system.Home) {registry : MetadataRegistry M}
    (plain : "*" ∉ registry.metadata)
    (stay : ∀ name, system.instances.entry name ≠ [] → scopeIn name ∈ system.registry.metadata →
      scopeIn name ∈ registry.metadata) : Home { system with registry } where
  plain := plain
  homes := by
    intro name box member
    obtain ⟨homed, loaded⟩ := home.homes name box member
    exact ⟨homed, stay name (List.ne_nil_of_mem member) loaded⟩

/-- An operation that finds what it must leaves all instances at home. -/
theorem Home.step {action : ScopedAction M T} (home : system.Home)
    (sheltered : action.Sheltered system) : (scopedStep system action).Home := by
  cases action with
  | change action =>
      cases action with
      | insertMetadata page =>
          apply home.change
          · rw [registryStep, MetadataRegistry.insertMetadata, AList.mem_insert, not_or]
            exact ⟨Ne.symm sheltered, home.plain⟩
          · intro name _ loaded
            exact (AList.mem_insert _).mpr (.inr loaded)
      | loadGroupFromToml page group parsed =>
          cases parsed with
          | error error => exact home
          | ok items => exact home.change home.plain fun _ _ loaded => loaded
      | ensureIndexForType metadata =>
          cases ensured : system.registry.ensureIndexForType metadata with
          | none =>
              rw [scopedStep, registryStep, ensured]
              exact home
          | some after =>
              rw [scopedStep, registryStep, ensured]
              obtain ⟨pages, -⟩ := MetadataRegistry.listed_ensureIndexForType ensured
              exact home.change (pages ▸ home.plain) fun _ _ loaded => pages ▸ loaded
      | removeMetadata metadata =>
          rw [scopedStep, registryStep, MetadataRegistry.removeMetadata]
          split
          · apply home.change
            · exact fun member => home.plain (AList.mem_erase.mp member).2
            · intro name held loaded
              exact AList.mem_erase.mpr ⟨fun same => held (sheltered name same), loaded⟩
          · exact home
  | find metadata name | lookup metadata name | asOne metadata name => exact home
  | instantiate metadata name make => exact home.instantiate sheltered
  | instantiateOne metadata name make =>
      rw [scopedStep]
      rcases InstanceMap.instantiateOne_cases system.registry () metadata name
        (system.maker metadata name make) system.instances with made | ⟨kept, -⟩
      · rw [made]
        exact home.instantiate sheltered
      · rw [kept]
        exact home
  | uninstantiate metadata name =>
      refine ⟨home.plain, ?_⟩
      intro other box member
      apply home.homes other box
      rw [scopedStep, InstanceMap.uninstantiate] at member
      split at member
      · exact member
      · rw [InstanceMap.entry] at member
        by_cases same : other = system.registry.instanceKey metadata name
        · rw [same, AList.lookup_erase] at member
          cases member
        · rw [AList.lookup_erase_ne same] at member
          exact member

/-- An operation that finds what it must stays inside the scope of its name. -/
theorem Home.staysInside {action : ScopedAction M T} (home : system.Home)
    (sheltered : action.Sheltered system) : action.StaysInside system := by
  cases action with
  | change action | uninstantiate metadata name => trivial
  | find metadata name =>
      intro full item found
      have owns := MetadataRegistry.owns_of_mem_searched home.plain
        (MetadataRegistry.mem_searched_of_find home.plain found)
      by_cases loaded : scopeIn name ∈ system.registry.metadata
      · rwa [MetadataRegistry.resolveMetadataKey_scope home.plain full.2.2 loaded] at owns
      · have unlisted := fun star => (sheltered full star).resolve_left loaded
        rw [MetadataRegistry.find_eq_none home.plain full.2.2 loaded unlisted] at found
        cases found
  | lookup metadata name =>
      intro full item found
      have owns := MetadataRegistry.owns_of_mem_searched home.plain
        (MetadataRegistry.mem_searched_of_lookup found)
      by_cases loaded : scopeIn name ∈ system.registry.metadata
      · rwa [MetadataRegistry.resolveMetadataKey_scope home.plain full.2.2 loaded] at owns
      · have vacant := fun star => (sheltered full star).resolve_left loaded
        rw [MetadataRegistry.lookup_eq_none home.plain full.2.2 loaded vacant] at found
        cases found
  | instantiate metadata name make =>
      intro full made ok
      exact home.instantiated sheltered full.1 ok
  | instantiateOne metadata name make =>
      intro full found ok
      rcases InstanceMap.instantiateOne_cases system.registry () metadata name
        (system.maker metadata name make) system.instances with made | ⟨-, held⟩
      · rw [made] at ok
        exact home.instantiated sheltered full.1 ok
      · have member := held found ok
        rw [MetadataRegistry.instanceKey_of_scoped full.1] at member
        exact home.homes name _ member
  | asOne metadata name =>
      intro full found one
      have member := InstanceMap.mem_entry_of_asOne one
      rw [MetadataRegistry.instanceKey_of_scoped full.1] at member
      exact home.homes name _ member

/-- Searches stay inside exactly where they find what they must. -/
def SearchesExactly (system : ScopedSystem M T) : Prop :=
  ∀ metadata name,
    ((ScopedAction.find metadata name).StaysInside system ↔
        (ScopedAction.find metadata name).Sheltered system) ∧
      ((ScopedAction.lookup metadata name).StaysInside system ↔
        (ScopedAction.lookup metadata name).Sheltered system)

theorem Home.searchesExactly (home : system.Home) : system.SearchesExactly := by
  intro metadata name
  refine ⟨⟨?_, home.staysInside⟩, ⟨?_, home.staysInside⟩⟩
  · rintro inside full rfl
    by_cases loaded : scopeIn name ∈ system.registry.metadata
    · exact .inl loaded
    · refine .inr ((MetadataRegistry.find_eq_none_iff home.plain).mp ?_)
      exact Option.eq_none_iff_forall_ne_some.mpr fun item found =>
        loaded (inside full item found).loaded
  · rintro inside full rfl
    by_cases loaded : scopeIn name ∈ system.registry.metadata
    · exact .inl loaded
    · refine .inr ((MetadataRegistry.lookup_eq_none_iff home.plain).mp ?_)
      exact Option.eq_none_iff_forall_ne_some.mpr fun item found =>
        loaded (inside full item found).loaded

end ScopedSystem

/-- From a state where every instance is at home, the operations of a run stay inside
the scopes of their names if each finds what it must, and searches stay inside only then. -/
theorem names_stayInside {system : ScopedSystem M T} {actions : List (ScopedAction M T)}
    (home : system.Home) (sheltered : Along scopedStep ScopedAction.Sheltered system actions) :
    Along scopedStep ScopedAction.StaysInside system actions ∧ system.SearchesExactly :=
  ⟨sheltered.mono (fun _ _ home sheltered => home.step sheltered)
    (fun _ _ home sheltered => home.staysInside sheltered) home, home.searchesExactly⟩

end Scopes

/-- A system without definitions and instances. -/
def ScopedSystem.empty : ScopedSystem SampleItem Ustr := ⟨.empty SampleItem, ∅⟩

theorem ScopedSystem.home_empty : ScopedSystem.empty.Home where
  plain := AList.notMem_empty _
  homes := by
    intro name box member
    cases member

/-- The page of a user who is logged in, and an instance of its definition. -/
def sampleSession : List (ScopedAction SampleItem Ustr) :=
  [.change (.insertMetadata (samplePage "alice" [⟨"web"⟩])),
    .change (.ensureIndexForType "alice"), .find "*" "app:web@alice",
    .instantiate "*" "app:web@alice" fun item => .ok item.name, .asOne "*" "app:web@alice"]

theorem names_stayInside_sampleSession :
    Along scopedStep ScopedAction.StaysInside .empty sampleSession ∧
      ScopedSystem.empty.SearchesExactly :=
  names_stayInside ScopedSystem.home_empty
    ⟨show (samplePage "alice" [⟨"web"⟩]).name ≠ "*" by decide, trivial,
      fun _ _ => .inl (by decide +kernel),
      fun _ => ⟨.inl rfl, .inl (by decide +kernel)⟩, trivial, trivial⟩

/-- The name of a user who is not logged in, while the page of the system has an item
of that group and name. -/
def strangerSearch : List (ScopedAction SampleItem Ustr) :=
  [.change (.insertMetadata (samplePage "static" [⟨"web"⟩])), .lookup "*" "app:web@alice"]

theorem not_names_stayInside_stranger :
    ¬ Along scopedStep ScopedAction.StaysInside ScopedSystem.empty strangerSearch := by
  rintro ⟨-, inside, -⟩
  have full : FullyScoped "*" "app:web@alice" := ⟨by decide, by decide, .inl rfl⟩
  have owns := inside full ⟨"web"⟩ (by decide +kernel)
  exact absurd owns.loaded (by decide +kernel)

end Rind
