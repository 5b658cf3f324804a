import Rind.Core.Persistence
import Rind.Flow.Reach

/-!
# Persistence of the facet graph

The facets of each scope are saved in a file of their own, except the transient
ones.  A scope is the part of a name after its last `@`.  The static scope has a
file at a fixed place, and every other scope has a directory below the root.
-/

namespace Rind

/-- Where facets are saved. The file of the static scope is in the directory of
no other scope. -/
structure PersistenceLayout where
  root : FilePath
  static : FilePath
  apart : ∀ scope, scope ≠ "static" → ¬ (root ++ [scope]) <+: static

/-- A name that is not saved. -/
def isTransient (name : Ustr) : Bool := Text.contains name "!@" || Text.endsWith name "!"

def scopeFromStateName (name : Ustr) : Ustr :=
  match Text.rsplitOnce '@' name with
  | some (_, scope) => scope
  | none => "static"

def scopedStatePath (root : FilePath) (scope : Ustr) : FilePath :=
  joinPath (joinPath root scope) "state.bin"

/-- The file of `persistence_for_scope`. -/
def PersistenceLayout.pathFor (layout : PersistenceLayout) (scope : Ustr) : FilePath :=
  if scope = "static" then layout.static else scopedStatePath layout.root scope

/-! ## Saving and loading -/

section Graph

variable [Bincode FlowInstance]

def StateEntry.ofInstance (branch : FlowInstance) : StateEntry := ⟨Bincode.codec.write branch⟩

def FlowInstance.ofEntry (entry : StateEntry) : FlowInstance :=
  (Bincode.codec.decode entry.data).getD ⟨"", .none false, .facet⟩

/-- The instances of some entries. One that could not be decoded has no name. -/
def loadInstances (entries : List StateEntry) : List FlowInstance :=
  (entries.map FlowInstance.ofEntry).filter (·.name ≠ "")

/-- Write the instances of a snapshot over those of a graph. -/
def loadEntries (snapshot : StateSnapshot) (facets : Facets) : Facets :=
  Maps.insertAll (fun entry => entry.1) (fun entry => loadInstances entry.2) snapshot.entries facets

/-- The snapshots of the scopes that have a facet to save, over any order of the
graph's entries. -/
def collectScopes :
    List (Sigma fun _ : Ustr => List FlowInstance) → AList fun _ : Ustr => StateSnapshot
  | [] => ∅
  | ⟨name, branches⟩ :: rest =>
      let perScope := collectScopes rest
      if isTransient name then perScope
      else
        let scope := scopeFromStateName name
        perScope.insert scope
          (((perScope.lookup scope).getD ∅).insert name (branches.map StateEntry.ofInstance))

/-- What `save_all_scopes` saves. The static scope is always among it. -/
def perScope (facets : Facets) : AList fun _ : Ustr => StateSnapshot :=
  let perScope := collectScopes facets.entries
  if "static" ∈ perScope then perScope else perScope.insert "static" ∅

variable [Bincode StateSnapshot] [Crc32]

def saveAllScopes (layout : PersistenceLayout) (facets : Facets) (files : Files) : Files :=
  (perScope facets).entries.foldl
    (fun files entry => saveSync (layout.pathFor entry.1) entry.2 files) files

/-- `load_scope_from_persistence`; its errors are ignored. -/
def loadScope (layout : PersistenceLayout) (files : Files) (facets : Facets) (scope : Ustr) :
    Facets :=
  match loadSnapshot files (layout.pathFor scope) with
  | .ok snapshot => loadEntries snapshot facets
  | .error _ => facets

def loadFromPersistence (layout : PersistenceLayout) (files : Files) :
    Except PersistenceError Facets :=
  match loadSnapshot files layout.static with
  | .error err => .error err
  | .ok snapshot =>
      let scopes := (readDirectories layout.root files).filter (· ≠ "static")
      .ok (scopes.foldl (loadScope layout files) (loadEntries snapshot ∅))

end Graph

/-- Whether `drop_scope` keeps a name. -/
def keptByDrop (scope name : Ustr) : Bool :=
  scope == "static" && !(name.toList.contains '@') || !Text.endsWith name ("@" ++ scope)

/-- `drop_scope`: what is left of the graph. -/
def dropScope (scope : Ustr) (facets : Facets) : Facets := Maps.retain (keptByDrop scope) facets

/-- `drop_scope`: what is left of the files. -/
def dropScopeFiles (layout : PersistenceLayout) (scope : Ustr) (files : Files) : Files :=
  if scope = "static" then files else removeDirAll (joinPath layout.root scope) files

/-! ## Paths -/

section Paths

variable {layout : PersistenceLayout}

theorem pathFor_plain {scope : Ustr} (plain : PlainName scope) (other : scope ≠ "static") :
    layout.pathFor scope = layout.root ++ [scope, "state.bin"] := by
  rw [PersistenceLayout.pathFor, if_neg other, scopedStatePath, joinPath_plain plain,
    joinPath_plain (by decide +kernel), List.append_assoc]
  rfl

theorem pathFor_injective {scope scope' : Ustr} (plain : PlainName scope)
    (plain' : PlainName scope') (same : layout.pathFor scope = layout.pathFor scope') :
    scope = scope' := by
  have apart (scope : Ustr) (plain : PlainName scope) (other : scope ≠ "static") :
      layout.pathFor scope ≠ layout.static := by
    intro same
    apply layout.apart scope other
    rw [← same, pathFor_plain plain other]
    exact ⟨["state.bin"], by simp⟩
  by_cases static : scope = "static"
  · by_cases static' : scope' = "static"
    · rw [static, static']
    · refine absurd ?_ (apart scope' plain' static')
      rw [← same, static]
      rfl
  · by_cases static' : scope' = "static"
    · refine absurd ?_ (apart scope plain static)
      rw [same, static']
      rfl
    · rw [pathFor_plain plain static, pathFor_plain plain' static'] at same
      simpa using same

theorem childDirectory_eq_some {root path : FilePath} {child : String}
    (found : childDirectory root path = some child) : ∃ rest, path = root ++ child :: rest := by
  induction root generalizing path with
  | nil =>
      match path with
      | [] => contradiction
      | [_] => contradiction
      | first :: second :: rest =>
          cases found
          exact ⟨second :: rest, rfl⟩
  | cons segment root ih =>
      match path with
      | [] => contradiction
      | first :: rest =>
          rw [childDirectory] at found
          split at found
          · rename_i same
            obtain ⟨tail, equal⟩ := ih found
            exact ⟨tail, by rw [same, equal, List.cons_append]⟩
          · contradiction

end Paths

/-! ## What is stored -/

section Stored

variable [Bincode FlowInstance]

@[simp] theorem ofEntry_ofInstance (branch : FlowInstance) :
    FlowInstance.ofEntry (.ofInstance branch) = branch := by
  rw [FlowInstance.ofEntry, StateEntry.ofInstance, Codec.decode_write, Option.getD_some]

/-- Instances with names are loaded as they were saved. -/
theorem loadInstances_ofInstance {branches : List FlowInstance}
    (named : ∀ branch ∈ branches, branch.name ≠ "") :
    loadInstances (branches.map StateEntry.ofInstance) = branches := by
  rw [loadInstances, List.map_map, List.filter_eq_self.mpr]
  · simp [Function.comp_def]
  · intro branch listed
    simp only [List.mem_map, Function.comp_apply, ofEntry_ofInstance, exists_eq_right] at listed
    simpa using named branch listed

/-- What the snapshot of a scope holds of a graph. -/
def storedEntries (facets : Facets) (scope name : Ustr) : Option (List StateEntry) :=
  if isTransient name = false ∧ scopeFromStateName name = scope then
    (facets.lookup name).map (·.map StateEntry.ofInstance)
  else none

theorem lookup_collectScopes (entries : List (Sigma fun _ : Ustr => List FlowInstance))
    (scope name : Ustr) :
    (((collectScopes entries).lookup scope).getD ∅).lookup name =
      if isTransient name = false ∧ scopeFromStateName name = scope then
        (entries.dlookup name).map (·.map StateEntry.ofInstance)
      else none := by
  induction entries with
  | nil => simp [collectScopes]
  | cons entry rest ih =>
      obtain ⟨first, branches⟩ := entry
      rw [collectScopes]
      by_cases same : name = first
      · subst same
        cases transient : isTransient name with
        | true => simpa [transient] using ih
        | false =>
            by_cases own : scopeFromStateName name = scope
            · subst own
              simp
            · have others : scope ≠ scopeFromStateName name := Ne.symm own
              simp only [Bool.false_eq_true, if_false, AList.lookup_insert_ne others]
              rw [ih]
              simp [own]
      · have tail : (⟨first, branches⟩ :: rest :
            List (Sigma fun _ : Ustr => List FlowInstance)).dlookup name = rest.dlookup name :=
          List.dlookup_cons_ne _ _ same
        rw [tail, ← ih]
        cases transient : isTransient first with
        | true => simp
        | false =>
            by_cases own : scope = scopeFromStateName first
            · subst own
              simp [AList.lookup_insert_ne same]
            · simp [AList.lookup_insert_ne own]

theorem mem_collectScopes {entries : List (Sigma fun _ : Ustr => List FlowInstance)}
    {scope : Ustr} :
    scope ∈ collectScopes entries ↔
      ∃ name ∈ entries.map Sigma.fst, isTransient name = false ∧ scopeFromStateName name = scope := by
  induction entries with
  | nil => simp [collectScopes]
  | cons entry rest ih =>
      obtain ⟨first, branches⟩ := entry
      rw [collectScopes, List.map_cons]
      cases transient : isTransient first with
      | true => simp [transient, ih]
      | false =>
          rw [if_neg Bool.false_ne_true, AList.mem_insert, ih]
          simp only [List.mem_cons, exists_eq_or_imp, transient, true_and]
          rw [eq_comm]

/-- A scope has a facet to save. -/
def HasStored (facets : Facets) (scope : Ustr) : Prop :=
  ∃ name ∈ facets, isTransient name = false ∧ scopeFromStateName name = scope

theorem mem_perScope {facets : Facets} {scope : Ustr} :
    scope ∈ perScope facets ↔ scope = "static" ∨ HasStored facets scope := by
  have collected : scope ∈ collectScopes facets.entries ↔ HasStored facets scope :=
    mem_collectScopes
  rw [perScope, ← collected]
  split
  · rename_i present
    constructor
    · exact .inr
    · rintro (rfl | found)
      · exact present
      · exact found
  · rw [AList.mem_insert]

theorem lookup_perScope (facets : Facets) (scope name : Ustr) :
    (((perScope facets).lookup scope).getD ∅).lookup name = storedEntries facets scope name := by
  have collected := lookup_collectScopes facets.entries scope name
  rw [perScope]
  split
  · exact collected
  · rename_i absent
    by_cases static : scope = "static"
    · subst static
      rw [AList.lookup_eq_none.mpr absent] at collected
      rw [AList.lookup_insert, storedEntries]
      exact collected
    · rw [AList.lookup_insert_ne static]
      exact collected

theorem storedEntries_of_not_hasStored {facets : Facets} {scope : Ustr}
    (empty : ¬ HasStored facets scope) (name : Ustr) : storedEntries facets scope name = none := by
  rw [storedEntries]
  split
  · rename_i stored
    rw [Option.map_eq_none_iff, AList.lookup_eq_none]
    exact fun present => empty ⟨name, present, stored⟩
  · rfl

end Stored

end Rind
