import Rind.Flow.Ingest
import Rind.Flow.Persistence

/-!
# Restoring the graph

The files are in step with the graph when the file of every scope holds what is
stored of the scope.  Saving brings them in step, provided that the scopes it
does not visit have nothing to store and an empty file.  A graph that is in step
is restored as it was, without its transient facets.
-/

namespace Rind

section Restore

variable [Bincode FlowInstance] [Bincode StateSnapshot] [Crc32] {layout : PersistenceLayout}
  {facets facets' : Facets} {files files' : Files} {scope : Ustr}

/-- Every file is the one of a scope. -/
def Tidy (layout : PersistenceLayout) (files : Files) : Prop :=
  ∀ path ∈ files, ∃ scope, PlainName scope ∧ path = layout.pathFor scope

/-- The file of a scope holds what is stored of the scope. -/
def InStep (layout : PersistenceLayout) (facets : Facets) (files : Files) (scope : Ustr) : Prop :=
  ∃ snapshot, loadSnapshot files (layout.pathFor scope) = .ok snapshot ∧
    ∀ name, snapshot.lookup name = storedEntries facets scope name

/-- The names to save are not empty, and their scopes are names of directories. -/
def Savable (facets : Facets) : Prop :=
  ∀ name ∈ facets, isTransient name = false → name ≠ "" ∧ PlainName (scopeFromStateName name)

/-- The files of all scopes are in step with the graph. -/
structure Synced (layout : PersistenceLayout) (facets : Facets) (files : Files) : Prop where
  savable : Savable facets
  tidy : Tidy layout files
  inStep : ∀ scope, PlainName scope → InStep layout facets files scope

/-! ## Saving -/

omit [Bincode StateSnapshot] [Crc32] in
theorem plain_of_mem_perScope (savable : Savable facets) (listed : scope ∈ perScope facets) :
    PlainName scope := by
  rcases mem_perScope.mp listed with rfl | ⟨name, present, kept, rfl⟩
  · decide +kernel
  · exact (savable name present kept).2

theorem saveAllScopes_eq (layout : PersistenceLayout) (facets : Facets) (files : Files) :
    saveAllScopes layout facets files =
      Maps.insertAll (fun entry => layout.pathFor entry.1) (fun entry => encodeSnapshot entry.2)
        (perScope facets).entries files := rfl

/-- A scope that is visited is in step. -/
theorem inStep_of_mem (savable : Savable facets) (listed : scope ∈ perScope facets) :
    InStep layout facets (saveAllScopes layout facets files) scope := by
  obtain ⟨snapshot, found⟩ := Option.isSome_iff_exists.mp (AList.lookup_isSome.mpr listed)
  have entry : (⟨scope, snapshot⟩ : Sigma fun _ : Ustr => StateSnapshot) ∈
      (perScope facets).entries := AList.mem_lookup_iff.mp found
  have written : (saveAllScopes layout facets files).lookup (layout.pathFor scope) =
      some (encodeSnapshot snapshot) := by
    rw [saveAllScopes_eq]
    refine Maps.lookup_insertAll ⟨⟨scope, snapshot⟩, entry, rfl⟩ ?_
    intro other member same
    have otherListed : other.1 ∈ perScope facets := AList.mem_keys.mpr (List.mem_map_of_mem member)
    have equal := pathFor_injective (plain_of_mem_perScope savable otherListed)
      (plain_of_mem_perScope savable listed) same
    have otherFound : (perScope facets).lookup other.1 = some other.2 :=
      AList.mem_lookup_iff.mpr member
    rw [equal, found] at otherFound
    rw [Option.some.inj otherFound]
  refine ⟨snapshot, ?_, fun name => ?_⟩
  · rw [loadSnapshot, written]
    exact decodeSnapshot_encodeSnapshot snapshot
  · rw [← lookup_perScope, found, Option.getD_some]

/-- A scope that is not visited keeps its file. -/
theorem lookup_saveAllScopes_of_not_mem (savable : Savable facets) (plain : PlainName scope)
    (absent : scope ∉ perScope facets) :
    (saveAllScopes layout facets files).lookup (layout.pathFor scope) =
      files.lookup (layout.pathFor scope) := by
  rw [saveAllScopes_eq]
  apply Maps.lookup_insertAll_of_forall_ne
  intro entry member same
  have listed : entry.1 ∈ perScope facets := AList.mem_keys.mpr (List.mem_map_of_mem member)
  have equal := pathFor_injective (plain_of_mem_perScope savable listed) plain same
  exact absent (equal ▸ listed)

theorem tidy_saveAllScopes (savable : Savable facets) (tidy : Tidy layout files) :
    Tidy layout (saveAllScopes layout facets files) := by
  intro path present
  by_cases visited : ∃ scope ∈ perScope facets, path = layout.pathFor scope
  · obtain ⟨scope, listed, equal⟩ := visited
    exact ⟨scope, plain_of_mem_perScope savable listed, equal⟩
  · apply tidy path
    rw [← AList.lookup_isSome] at present ⊢
    rwa [saveAllScopes_eq, Maps.lookup_insertAll_of_forall_ne] at present
    intro entry member same
    have listed : entry.1 ∈ perScope facets := AList.mem_keys.mpr (List.mem_map_of_mem member)
    exact visited ⟨entry.1, listed, same.symm⟩

/-- Saving brings all scopes in step if those it does not visit are. -/
theorem synced_saveAllScopes (savable : Savable facets) (tidy : Tidy layout files)
    (stale : ∀ scope, PlainName scope → scope ∉ perScope facets → InStep layout facets files scope) :
    Synced layout facets (saveAllScopes layout facets files) where
  savable := savable
  tidy := tidy_saveAllScopes savable tidy
  inStep scope plain := by
    by_cases listed : scope ∈ perScope facets
    · exact inStep_of_mem savable listed
    · obtain ⟨snapshot, loaded, holds⟩ := stale scope plain listed
      refine ⟨snapshot, ?_, holds⟩
      rw [← loaded, loadSnapshot, loadSnapshot, lookup_saveAllScopes_of_not_mem savable plain listed]

/-- Saving after a change that leaves no scope without a facet to save. -/
theorem Synced.save (synced : Synced layout facets files) (savable : Savable facets')
    (kept : ∀ scope, scope ≠ "static" → HasStored facets scope → HasStored facets' scope) :
    Synced layout facets' (saveAllScopes layout facets' files) := by
  apply synced_saveAllScopes savable synced.tidy
  intro scope plain absent
  rw [mem_perScope, not_or] at absent
  obtain ⟨other, unstored⟩ := absent
  obtain ⟨snapshot, loaded, holds⟩ := synced.inStep scope plain
  refine ⟨snapshot, loaded, fun name => ?_⟩
  rw [holds, storedEntries_of_not_hasStored unstored,
    storedEntries_of_not_hasStored fun stored => unstored (kept scope other stored)]

/-! ## Dropping a scope -/

omit [Bincode FlowInstance] [Bincode StateSnapshot] [Crc32] in
/-- A name that ends like the names of a scope is one of the scope. -/
theorem scope_of_endsWith {name : Ustr} (single : '@' ∉ scope.toList)
    (ends : Text.endsWith name ("@" ++ scope)) : scopeFromStateName name = scope := by
  rw [Text.endsWith, decide_eq_true_eq] at ends
  obtain ⟨before, whole⟩ := ends
  have parts : name.toList = before ++ '@' :: scope.toList := by simp [← whole]
  rw [scopeFromStateName, Text.rsplitOnce_of_append parts single]
  exact String.ofList_toList

omit [Bincode StateSnapshot] [Crc32] in
/-- Dropping a scope leaves what is stored of the others. -/
theorem storedEntries_dropScope {scope' : Ustr} (single : '@' ∉ scope.toList)
    (other : scope' ≠ scope) (name : Ustr) :
    storedEntries (dropScope scope facets) scope' name = storedEntries facets scope' name := by
  rw [storedEntries, storedEntries]
  split
  · rename_i stored
    have kept : keptByDrop scope name = true := by
      rw [keptByDrop, Bool.or_eq_true, Bool.not_eq_true', ← Bool.not_eq_true]
      refine .inr fun ends => other ?_
      rw [← stored.2, scope_of_endsWith single ends]
    rw [dropScope, Maps.lookup_retain, if_pos kept]
  · rfl

/-- Saving after a scope was dropped. -/
theorem Synced.drop (synced : Synced layout facets files) (plain : PlainName scope)
    (single : '@' ∉ scope.toList) :
    Synced layout (dropScope scope facets)
      (saveAllScopes layout (dropScope scope facets) (dropScopeFiles layout scope files)) := by
  have savable : Savable (dropScope scope facets) := by
    intro name present
    exact synced.savable name (Maps.mem_retain.mp present).2
  have lookup (path : FilePath) : (dropScopeFiles layout scope files).lookup path =
      if scope ≠ "static" ∧ (layout.root ++ [scope]).isPrefixOf path then none
      else files.lookup path := by
    rw [dropScopeFiles]
    split
    · rename_i static
      simp [static]
    · rename_i other
      rw [removeDirAll, Maps.lookup_retain, joinPath_plain plain]
      cases (layout.root ++ [scope]).isPrefixOf path <;> simp [other]
  apply synced_saveAllScopes savable
  · intro path present
    apply synced.tidy path
    rw [← AList.lookup_isSome, lookup] at present
    split at present
    · contradiction
    · exact AList.lookup_isSome.mp present
  · intro scope' plain' absent
    rw [mem_perScope, not_or] at absent
    obtain ⟨notStatic, unstored⟩ := absent
    by_cases same : scope' = scope
    · subst same
      have gone : (layout.root ++ [scope']).isPrefixOf (layout.pathFor scope') := by
        rw [pathFor_plain plain notStatic, List.isPrefixOf_iff_prefix]
        exact ⟨["state.bin"], by simp⟩
      refine ⟨∅, ?_, fun name => ?_⟩
      · rw [loadSnapshot, lookup, if_pos ⟨notStatic, gone⟩]
      · rw [storedEntries_of_not_hasStored unstored]
        rfl
    · have stays : ¬ (scope ≠ "static" ∧
          (layout.root ++ [scope]).isPrefixOf (layout.pathFor scope')) := by
        rintro ⟨-, inside⟩
        rw [pathFor_plain plain' notStatic, List.isPrefixOf_iff_prefix] at inside
        rw [List.prefix_append_right_inj, List.cons_prefix_cons] at inside
        exact same inside.1.symm
      obtain ⟨snapshot, loaded, holds⟩ := synced.inStep scope' plain'
      refine ⟨snapshot, ?_, fun name => ?_⟩
      · rw [loadSnapshot, lookup, if_neg stays]
        exact loaded
      · rw [holds, storedEntries_dropScope single same]

/-! ## Loading -/

omit [Bincode StateSnapshot] [Crc32] in
/-- What a snapshot loads of a name goes over what was there. -/
theorem lookup_loadEntries (snapshot : StateSnapshot) (facets : Facets) (name : Ustr) :
    (loadEntries snapshot facets).lookup name =
      ((snapshot.lookup name).map loadInstances).or (facets.lookup name) := by
  cases found : snapshot.lookup name with
  | none =>
      rw [loadEntries, Maps.lookup_insertAll_of_forall_ne]
      · rfl
      · intro entry member same
        have present : snapshot.lookup entry.1 = some entry.2 := AList.mem_lookup_iff.mpr member
        rw [same, found] at present
        contradiction
  | some entries =>
      have member : (⟨name, entries⟩ : Sigma fun _ : String => List StateEntry) ∈
          snapshot.entries := AList.mem_lookup_iff.mp found
      refine Maps.lookup_insertAll ⟨_, member, rfl⟩ ?_
      intro entry listed same
      have present : snapshot.lookup entry.1 = some entry.2 := AList.mem_lookup_iff.mpr listed
      rw [same, found] at present
      rw [Option.some.inj present]

/-- What a graph is restored to. -/
def restored (facets : Facets) (name : Ustr) : Option (List FlowInstance) :=
  if isTransient name then none else facets.lookup name

omit [Bincode StateSnapshot] [Crc32] in
/-- The stored entries of a name restore it. -/
theorem storedEntries_restored (savable : Savable facets)
    (named : ∀ name, ∀ branch ∈ facets.instances name, branch.name = name) (name : Ustr) :
    (storedEntries facets scope name).map loadInstances =
      if scopeFromStateName name = scope then restored facets name else none := by
  rw [storedEntries, restored]
  cases transient : isTransient name with
  | true => simp
  | false =>
      by_cases own : scopeFromStateName name = scope
      · cases found : facets.lookup name with
        | none => simp
        | some branches =>
            have nonempty := (savable name (AList.lookup_isSome.mp (by simp [found])) transient).1
            have loaded := @loadInstances_ofInstance _ branches fun branch listed => by
              rw [named name branch (by rwa [Facets.instances, found, Option.getD_some])]
              exact nonempty
            simp [own, loaded]
      · simp [own]

/-- A graph holds what is restored of the names of some scopes. -/
def Covers (facets : Facets) (scopes : List Ustr) (loaded : Facets) : Prop :=
  ∀ name, loaded.lookup name =
    if scopeFromStateName name ∈ scopes then restored facets name else none

/-- Loading a scope covers it too. -/
theorem Covers.loadScope (synced : Synced layout facets files)
    (named : ∀ name, ∀ branch ∈ facets.instances name, branch.name = name)
    {scopes : List Ustr} {loaded : Facets} (covers : Covers facets scopes loaded)
    (plain : PlainName scope) :
    Covers facets (scope :: scopes) (loadScope layout files loaded scope) := by
  obtain ⟨snapshot, read, holds⟩ := synced.inStep scope plain
  intro name
  rw [Rind.loadScope, read]
  dsimp only
  rw [lookup_loadEntries, holds, storedEntries_restored synced.savable named, covers name]
  by_cases own : scopeFromStateName name = scope
  · simp only [own, if_true, List.mem_cons, true_or]
    cases restored facets name <;> simp
  · simp [own]

theorem Covers.loadScopes (synced : Synced layout facets files)
    (named : ∀ name, ∀ branch ∈ facets.instances name, branch.name = name)
    {scopes others : List Ustr} {loaded : Facets} (covers : Covers facets scopes loaded)
    (plain : ∀ scope ∈ others, PlainName scope) :
    Covers facets (others.reverse ++ scopes) (others.foldl (Rind.loadScope layout files) loaded) := by
  induction others generalizing scopes loaded with
  | nil => exact covers
  | cons scope rest ih =>
      obtain ⟨first, later⟩ := List.forall_mem_cons.mp plain
      rw [List.reverse_cons, List.append_assoc]
      exact ih (covers.loadScope synced named first) later

omit [Bincode FlowInstance] [Bincode StateSnapshot] [Crc32] in
/-- Only directories of scopes are found below the root. -/
theorem Tidy.plain_of_listed (tidy : Tidy layout files)
    (listed : scope ∈ readDirectories layout.root files) (other : scope ≠ "static") :
    PlainName scope := by
  obtain ⟨path, present, child⟩ := mem_readDirectories.mp listed
  obtain ⟨rest, below⟩ := childDirectory_eq_some child
  obtain ⟨scope', plain, isFile⟩ := tidy path present
  by_cases static : scope' = "static"
  · subst static
    have inside : layout.static = layout.root ++ scope :: rest := isFile.symm.trans below
    exact absurd ⟨rest, by simp [inside]⟩ (layout.apart scope other)
  · rw [isFile, pathFor_plain plain static, List.append_cancel_left_eq, List.cons.injEq] at below
    rw [← below.1]
    exact plain

/-- The directory of every scope with a facet to restore is found. -/
theorem Synced.listed (synced : Synced layout facets files) {name : Ustr}
    (present : restored facets name ≠ none) (other : scopeFromStateName name ≠ "static") :
    scopeFromStateName name ∈ readDirectories layout.root files := by
  rw [restored] at present
  cases transient : isTransient name with
  | true => simp [transient] at present
  | false =>
      simp only [transient, Bool.false_eq_true, if_false] at present
      have known : name ∈ facets := by
        rw [← AList.lookup_isSome, Option.isSome_iff_ne_none]
        exact present
      have plain := (synced.savable name known transient).2
      obtain ⟨snapshot, read, holds⟩ := synced.inStep _ plain
      have stored : snapshot.lookup name ≠ none := by
        rw [holds, storedEntries, if_pos ⟨transient, rfl⟩]
        simpa using present
      rw [mem_readDirectories]
      refine ⟨layout.pathFor (scopeFromStateName name), ?_, ?_⟩
      · rw [← AList.lookup_isSome]
        cases found : files.lookup (layout.pathFor (scopeFromStateName name)) with
        | some _ => rfl
        | none =>
            rw [loadSnapshot, found] at read
            cases read
            exact absurd rfl stored
      · rw [pathFor_plain plain other, childDirectory_append]
        rfl

/-- A graph that is in step is restored without its transient facets. -/
theorem Synced.load (synced : Synced layout facets files)
    (named : ∀ name, ∀ branch ∈ facets.instances name, branch.name = name) :
    ∃ loaded, loadFromPersistence layout files = .ok loaded ∧
      ∀ name, loaded.lookup name = restored facets name := by
  obtain ⟨snapshot, read, holds⟩ := synced.inStep "static" (by decide +kernel)
  have first : Covers facets ["static"] (loadEntries snapshot ∅) := by
    intro name
    rw [lookup_loadEntries, holds, storedEntries_restored synced.savable named]
    simp
  have listedPlain : ∀ scope ∈ (readDirectories layout.root files).filter (· ≠ "static"),
      PlainName scope := by
    intro scope listed
    rw [List.mem_filter, decide_eq_true_eq] at listed
    exact synced.tidy.plain_of_listed listed.1 listed.2
  have covers := first.loadScopes synced named listedPlain
  have read' : loadSnapshot files layout.static = .ok snapshot := read
  refine ⟨_, by rw [loadFromPersistence, read'], fun name => ?_⟩
  rw [covers name]
  split
  · rfl
  · rename_i missed
    rw [List.mem_append, List.mem_reverse, List.mem_filter, decide_eq_true_eq,
      List.mem_singleton, not_or, not_and'] at missed
    obtain ⟨unlisted, other⟩ := missed
    by_contra present
    exact unlisted other (synced.listed (Ne.symm present) other)

/-- Saving a graph whose facets of some scopes are all gone leaves the files in
step with the graph that had them. -/
theorem Synced.save_forgets (synced : Synced layout facets files) (savable : Savable facets')
    (agree : ∀ scope ∈ perScope facets', ∀ name,
      storedEntries facets' scope name = storedEntries facets scope name) :
    Synced layout facets (saveAllScopes layout facets' files) where
  savable := synced.savable
  tidy := tidy_saveAllScopes savable synced.tidy
  inStep scope plain := by
    by_cases listed : scope ∈ perScope facets'
    · obtain ⟨snapshot, loaded, holds⟩ := inStep_of_mem savable listed
      exact ⟨snapshot, loaded, fun name => by rw [holds, agree scope listed]⟩
    · obtain ⟨snapshot, loaded, holds⟩ := synced.inStep scope plain
      refine ⟨snapshot, ?_, holds⟩
      rw [← loaded, loadSnapshot, loadSnapshot, lookup_saveAllScopes_of_not_mem savable plain listed]

theorem synced_empty : Synced layout ∅ ∅ where
  savable := by intro name present; contradiction
  tidy := by intro path present; contradiction
  inStep scope _ := ⟨∅, rfl, fun name => by simp [storedEntries]⟩

/-! ## Runs -/

variable [SerdeJson] [TomlText]

/-- A call on the graph, or the end of a scope. -/
inductive GraphAction where
  | call (c : Call)
  | drop (scope : Ustr)
  deriving DecidableEq, Repr

/-- The graphs and files that sequences of allowed actions lead to, with all
scopes saved after each action. -/
inductive SavedRun (layout : PersistenceLayout) (metadata : MetadataRegistry FlowFacetMetadata)
    (may : Facets → GraphAction → Facets → Prop) : FlowState → Files → Prop where
  | empty : SavedRun layout metadata may .empty ∅
  | call {env : FlowEnv} {c : Call} {state final : FlowState} {files : Files}
      {result : Except CoreError Unit} (same : env.metadata = metadata)
      (before : SavedRun layout metadata may state files)
      (ran : exec env c state.unguarded = some (result, final))
      (allowed : may state.facets (.call c) final.facets) :
      SavedRun layout metadata may final (saveAllScopes layout final.facets files)
  | drop {scope : Ustr} {state : FlowState} {files : Files}
      (before : SavedRun layout metadata may state files)
      (allowed : may state.facets (.drop scope) (dropScope scope state.facets)) :
      SavedRun layout metadata may { state with facets := dropScope scope state.facets }
        (saveAllScopes layout (dropScope scope state.facets) (dropScopeFiles layout scope files))

/-- A call keeps the names savable, and takes the last facet to save from no
scope but the static one. A dropped scope has the name of a directory. -/
def KeepsScopes (before : Facets) (action : GraphAction) (after : Facets) : Prop :=
  match action with
  | .call _ => Savable after ∧
      ∀ scope, scope ≠ "static" → HasStored before scope → HasStored after scope
  | .drop scope => PlainName scope ∧ '@' ∉ scope.toList

theorem SavedRun.synced {metadata : MetadataRegistry FlowFacetMetadata} {state : FlowState}
    (run : SavedRun layout metadata KeepsScopes state files) :
    Synced layout state.facets files ∧ SelfNamed state := by
  induction run with
  | empty =>
      exact ⟨synced_empty, selfNamed_empty⟩
  | @call env _ state _ _ _ same before ran allowed ih =>
      obtain ⟨synced, named⟩ := ih
      obtain ⟨named', -⟩ := (selfNamed_invariant env).exec_within trivial state.unguarded
        (named.quiet (.unguarded state)) _ _ ran
      exact ⟨synced.save allowed.1 allowed.2, named'⟩
  | @drop scope state files before allowed ih =>
      obtain ⟨synced, named⟩ := ih
      refine ⟨synced.drop allowed.1 allowed.2, fun name branch inside => ?_⟩
      apply named name branch
      rw [Facets.instances, dropScope, Maps.lookup_retain] at inside
      split at inside
      · exact inside
      · contradiction

/-- After every run whose actions leave no scope without a facet to save, a fresh
graph is loaded from the files with exactly the facets that are not transient. -/
theorem SavedRun.restores {metadata : MetadataRegistry FlowFacetMetadata} {state : FlowState}
    (run : SavedRun layout metadata KeepsScopes state files) :
    ∃ loaded, loadFromPersistence layout files = .ok loaded ∧
      ∀ name, loaded.lookup name = restored state.facets name := by
  obtain ⟨synced, named⟩ := run.synced
  exact synced.load named

end Restore

/-! ## Instances as bytes -/

namespace Standard

/-- A payload, as `bincode` writes an enumeration: the position of its variant
and then its content. -/
def payloadCodec : Codec FlowPayload where
  write
    | .json value => Codec.varint.write 0 ++ Codec.string.write value.text
    | .string value => Codec.varint.write 1 ++ Codec.string.write value
    | .bytes value => Codec.varint.write 2 ++ Codec.byte.list.write value
    | .none flag => Codec.varint.write 3 ++ Codec.bool.write flag
  read bytes := do
    let (variant, bytes) ← Codec.varint.read bytes
    match variant with
    | 0 => (Codec.string.read bytes).map fun result => (.json ⟨result.1⟩, result.2)
    | 1 => (Codec.string.read bytes).map fun result => (.string result.1, result.2)
    | 2 => (Codec.byte.list.read bytes).map fun result => (.bytes result.1, result.2)
    | 3 => (Codec.bool.read bytes).map fun result => (.none result.1, result.2)
    | _ => none
  read_write value rest := by
    cases value <;> simp [Codec.read_write]

def flowTypeCodec : Codec FlowType :=
  Codec.varint.partialView
    (fun variant => match variant with
      | 0 => some .impulse
      | 1 => some .facet
      | _ => none)
    (fun flowType => match flowType with
      | .impulse => 0
      | .facet => 1)
    (fun flowType => by cases flowType <;> rfl)

scoped instance : Bincode FlowInstance where
  codec := (Codec.string.pair (payloadCodec.pair flowTypeCodec)).view
    (fun fields => ⟨fields.1, fields.2.1, fields.2.2⟩)
    (fun branch => (branch.name, branch.payload, branch.type))
    (fun _ => rfl)

end Standard

/-! ## A facet of a scope -/

section Examples

open scoped Rind.Compact Rind.Standard

def defaultLayout : PersistenceLayout where
  root := ["var", "system-states"]
  static := ["var", "system-states", "static", "state.bin"]
  apart scope other inside := by simp_all

def setMotd : Call := .setFacet "rind:motd@tty1" (some (.string "welcome"))

def motd : FlowInstance := ⟨"rind:motd@tty1", .string "welcome", .facet⟩

/-- The graphs after the text was set, and after it was removed again. -/
theorem exec_motd : ∃ result first result' second,
    exec keyEnv setMotd FlowState.empty.unguarded = some (result, first) ∧
      exec keyEnv (.removeFacet "rind:motd@tty1" none) first.unguarded = some (result', second) ∧
      first.facets = AList.singleton "rind:motd@tty1" [motd] ∧ second.facets = ∅ := by
  have ran : ((run keyEnv 1 setMotd FlowState.empty.unguarded).bind fun first =>
      (run keyEnv 1 (.removeFacet "rind:motd@tty1" none) first.2.unguarded).map fun second =>
        (first.2.facets.entries, second.2.facets.entries)) =
      some ([⟨"rind:motd@tty1", [motd]⟩], []) := by
    decide +kernel
  rw [Option.bind_eq_some_iff] at ran
  obtain ⟨⟨result, first⟩, firstRan, ran⟩ := ran
  rw [Option.map_eq_some_iff] at ran
  obtain ⟨⟨result', second⟩, secondRan, same⟩ := ran
  obtain ⟨facets, facets'⟩ := Prod.mk.inj same
  exact ⟨result, first, result', second, exec_of_run firstRan, exec_of_run secondRan,
    AList.ext facets, AList.ext facets'⟩

theorem savable_motd : Savable (AList.singleton "rind:motd@tty1" [motd]) := by
  intro name present transient
  have equal : name = "rind:motd@tty1" := by simpa [AList.mem_keys] using present
  subst equal
  exact ⟨by decide +kernel, by decide +kernel⟩

/-- The text is none of the static scope. -/
theorem storedEntries_motd (name : Ustr) :
    storedEntries (AList.singleton "rind:motd@tty1" [motd]) "static" name = none := by
  apply storedEntries_of_not_hasStored
  rintro ⟨other, present, -, static⟩
  have equal : other = "rind:motd@tty1" := by simpa [AList.mem_keys] using present
  subst equal
  exact absurd static (by decide +kernel)

/-- The text of a terminal is restored. -/
theorem SavedRun.restores_motd : ∃ state files loaded,
    SavedRun defaultLayout keyEnv.metadata KeepsScopes state files ∧
      loadFromPersistence defaultLayout files = .ok loaded ∧
      ∀ name, loaded.lookup name = restored state.facets name := by
  obtain ⟨result, first, -, -, firstRan, -, facets, -⟩ := exec_motd
  have keeps : KeepsScopes FlowState.empty.facets (.call setMotd) first.facets := by
    refine ⟨facets ▸ savable_motd, fun scope _ stored => ?_⟩
    obtain ⟨name, present, -⟩ := stored
    contradiction
  have run : SavedRun defaultLayout keyEnv.metadata KeepsScopes first
      (saveAllScopes defaultLayout first.facets ∅) := .call rfl .empty firstRan keeps
  obtain ⟨loaded, loads, same⟩ := SavedRun.restores run
  exact ⟨first, _, loaded, run, loads, same⟩

/-- The text comes back although it was removed: the file of its scope is not
written again. -/
theorem not_restored_motd : ∃ state files loaded,
    SavedRun defaultLayout keyEnv.metadata (fun _ _ _ => True) state files ∧
      loadFromPersistence defaultLayout files = .ok loaded ∧
      state.facets.lookup "rind:motd@tty1" = none ∧
      loaded.lookup "rind:motd@tty1" = some [motd] := by
  obtain ⟨result, first, result', second, firstRan, secondRan, facets, facets'⟩ := exec_motd
  have set : Synced defaultLayout first.facets (saveAllScopes defaultLayout first.facets ∅) := by
    apply synced_empty.save (facets ▸ savable_motd)
    intro scope _ stored
    obtain ⟨name, present, -⟩ := stored
    contradiction
  have removed : Synced defaultLayout first.facets
      (saveAllScopes defaultLayout second.facets (saveAllScopes defaultLayout first.facets ∅)) := by
    rw [facets'] at *
    apply set.save_forgets
    · intro name present
      contradiction
    · intro scope visited name
      rcases mem_perScope.mp visited with rfl | ⟨other, present, -⟩
      · rw [facets, storedEntries_motd, storedEntries_of_not_hasStored]
        rintro ⟨other, present, -⟩
        contradiction
      · contradiction
  have named : ∀ name, ∀ branch ∈ first.facets.instances name, branch.name = name :=
    (selfNamed_invariant keyEnv).exec_within trivial _ selfNamed_empty _ _ firstRan |>.1
  obtain ⟨loaded, loads, same⟩ := removed.load named
  refine ⟨second, _, loaded, .call rfl (.call rfl .empty firstRan trivial) secondRan trivial, loads,
    by rw [facets']; rfl, ?_⟩
  rw [same, restored, facets]
  decide +kernel

end Examples

end Rind
