import Rind.Core.Indexing
import Rind.Core.Loader
import Rind.Data.Maps
import Rind.Data.Replacing

/-!
# The definitions of unit files

A page of metadata takes the definitions of all types, by the group that a file gives them.
A section of a TOML file replaces the definitions of its type in the group of the file;
what is built in and what other loaders find is appended.
-/

namespace Rind

open Prog

/-! ## Pages -/

/-- The metadata of a scope: the types by the names of their sections, and the definitions
of each group and type. -/
structure UnitsMetadata (τ M : Type) where
  name : Ustr
  nameToType : AList fun _ : Ustr => τ
  values : AList fun _ : Ustr => AList fun _ : τ => List M

/-- Definitions of a type that are put into a group, in the place of those that are there or
behind them. -/
structure UnitInsertion (τ M : Type) where
  group : Ustr
  type : τ
  write : Replacing.Write M
  deriving DecidableEq, Repr

namespace UnitsMetadata

variable {τ M : Type} [DecidableEq τ] (metadata : UnitsMetadata τ M)

def new (name : Ustr) (nameToType : AList fun _ : Ustr => τ) : UnitsMetadata τ M :=
  ⟨name, nameToType, ∅⟩

def getInGroup (group : Ustr) (type : τ) : Option (List M) :=
  (metadata.values.lookup group).bind (·.lookup type)

/-- The definitions of a type in a group, none where the group or the type is not there. -/
def itemsIn (group : Ustr) (type : τ) : List M := (metadata.getInGroup group type).getD []

/-- Set the definitions of a type in a group. -/
def put (group : Ustr) (type : τ) (items : List M) : UnitsMetadata τ M :=
  { metadata with
    values := metadata.values.insert group
      (((metadata.values.lookup group).getD ∅).insert type items) }

def insert (group : Ustr) (type : τ) (value : M) : UnitsMetadata τ M :=
  metadata.put group type (metadata.itemsIn group type ++ [value])

def apply (insertion : UnitInsertion τ M) : UnitsMetadata τ M :=
  metadata.put insertion.group insertion.type
    (insertion.write.apply (metadata.itemsIn insertion.group insertion.type))

/-- The definitions of one type, by their groups. -/
def typed (type : τ) : Metadata M := ⟨metadata.name, Maps.select (·.lookup type) metadata.values⟩

theorem lookup_typed (group : Ustr) (type : τ) :
    (metadata.typed type).values.lookup group = metadata.getInGroup group type :=
  Maps.lookup_select _ _ _

theorem itemsIn_put (group other : Ustr) (type type' : τ) (items : List M) :
    (metadata.put group type items).itemsIn other type' =
      if group = other ∧ type = type' then items else metadata.itemsIn other type' := by
  rw [itemsIn, getInGroup, put]
  by_cases sameGroup : group = other
  · subst sameGroup
    rw [AList.lookup_insert, Option.bind_some]
    by_cases sameType : type = type'
    · subst sameType
      rw [AList.lookup_insert, if_pos ⟨rfl, rfl⟩]
      rfl
    · rw [AList.lookup_insert_ne (Ne.symm sameType), if_neg fun both => sameType both.2,
        itemsIn, getInGroup]
      cases metadata.values.lookup group <;> rfl
  · rw [AList.lookup_insert_ne (Ne.symm sameGroup), if_neg fun both => sameGroup both.1]
    rfl

end UnitsMetadata

/-! ## Loaders -/

/-- What the text of a TOML file means: its sections, and the definitions of a section of
some type. -/
structure UnitFormat (τ M V : Type) where
  fromStr : String → Except CoreError (List (Ustr × V))
  parse : τ → V → Except CoreError (List M)

/-- The loaders: the one for TOML, and those of plugins. -/
inductive UnitLoader (π : Type) where
  | toml
  | plugin (id : π)
  deriving DecidableEq

/-- What a plugin finds in a file: definitions for the group of the file. -/
abbrev PluginLoader (τ M : Type) : Type :=
  String → Ustr → UnitPath → Except CoreError (List (τ × M))

/-- The page that is loaded, and the rest of the context. -/
structure UnitsState (τ M γ : Type) where
  metadata : UnitsMetadata τ M
  context : γ

section Load

variable {τ M V π γ : Type} [DecidableEq τ] (format : UnitFormat τ M V)

def insertValue (name : Ustr) (value : V) (group : Ustr) :
    Prog (UnitsMetadata τ M) CoreError Unit := do
  match ← read fun metadata => metadata.nameToType.lookup name with
  | none => fail (.missingField name)
  | some type =>
      match format.parse type value with
      | .error error => fail error
      | .ok items => change fun metadata => metadata.put group type items

def collectValue (table : List (Ustr × V)) (group : Ustr) :
    Prog (UnitsMetadata τ M) CoreError Unit :=
  each table fun entry => do
    if ← read fun metadata => decide (entry.1 ∈ metadata.nameToType) then
      insertValue format entry.1 entry.2 group
    else pure ()

def fromToml (toml : String) (group : Ustr) : Prog (UnitsMetadata τ M) CoreError Unit :=
  match format.fromStr toml with
  | .error error => fail error
  | .ok table => collectValue format table group

/-- A plugin puts in what it finds. -/
def loadPlugin (plugin : PluginLoader τ M) (content : String) (group : Ustr)
    (unitsDir : UnitPath) : Prog (UnitsMetadata τ M) CoreError Unit :=
  match plugin content group unitsDir with
  | .error error => fail error
  | .ok items => each items fun item =>
      change fun metadata => metadata.insert group item.1 item.2

variable (plugins : π → PluginLoader τ M)

def loadUnit : UnitLoader π → String → Ustr → UnitPath → Prog (UnitsMetadata τ M) CoreError Unit
  | .toml, content, group, _ => fromToml format content group
  | .plugin id, content, group, unitsDir => loadPlugin (plugins id) content group unitsDir

/-- Run a program on the page, after which no loader is registered. -/
def onMetadata (body : Prog (UnitsMetadata τ M) CoreError Unit) :
    Prog (UnitsState τ M γ) CoreError (Option (Ustr × UnitLoader π)) := fun state =>
  (body state.metadata).map fun result =>
    (result.1.map fun _ => none, { state with metadata := result.2 })

/-- Run a trigger, which reads the page. -/
def onContext (trigger : UnitsMetadata τ M → Prog γ CoreError Unit) :
    Prog (UnitsState τ M γ) CoreError Unit := fun state =>
  (trigger state.metadata state.context).map fun result =>
    (result.1, { state with context := result.2 })

def unitLoaders (trigger : Option (String → Ustr → UnitsMetadata τ M → Prog γ CoreError Unit)) :
    Loaders (UnitLoader π) (UnitsState τ M γ) where
  load loader content group unitsDir := onMetadata (loadUnit format plugins loader content group
    unitsDir)
  trigger := trigger.map fun trigger content group => onContext (trigger content group)

/-- `load_units_from`: `exists_` says what is found at a path. -/
def loadUnitsFrom {κ σ : Type} (loaders : Loaders κ σ)
    (exists_ : String → Option (UnitPath × Except String (List DirEntry))) (unitsDir : String) :
    Prog (Loading κ σ) CoreError Unit :=
  each (Text.split ':' unitsDir) fun part =>
    let trimmed := Text.trim part
    if trimmed = "" then pure ()
    else
      match exists_ trimmed with
      | none => pure ()
      | some (path, entries) => loadInDir loaders path entries

/-! ## Files -/

/-- A file that is loaded, with the directory it is in. -/
structure UnitFile where
  dir : UnitPath
  path : UnitPath
  content : String

/-- The files of a directory that can be read. -/
def filesIn (dir : UnitPath) : Except String (List DirEntry) → List UnitFile
  | .error _ => []
  | .ok entries => entries.filterMap fun entry =>
      match entry with
      | .file path (.ok content) => some ⟨dir, path, content⟩
      | _ => none

/-- The files of a path list, in the order they are loaded in. -/
def unitFiles (exists_ : String → Option (UnitPath × Except String (List DirEntry)))
    (unitsDir : String) : List UnitFile :=
  (Text.split ':' unitsDir).flatMap fun part =>
    let trimmed := Text.trim part
    if trimmed = "" then []
    else
      match exists_ trimmed with
      | none => []
      | some (path, entries) => filesIn path entries

/-- The section of a TOML file as an insertion, if its name is that of a type. -/
def sectionInsertion (nameToType : AList fun _ : Ustr => τ) (group : Ustr) (entry : Ustr × V) :
    Option (UnitInsertion τ M) :=
  (nameToType.lookup entry.1).bind fun type =>
    match format.parse type entry.2 with
    | .error _ => none
    | .ok items => some ⟨group, type, ⟨true, items⟩⟩

/-- What a file declares, for the group of its stem. -/
def fileInsertions (table : AList fun _ : Ustr => UnitLoader π)
    (nameToType : AList fun _ : Ustr => τ) (file : UnitFile) : List (UnitInsertion τ M) :=
  match table.lookup file.path.loaderName with
  | none => []
  | some .toml =>
      match format.fromStr file.content with
      | .error _ => []
      | .ok sections => sections.filterMap (sectionInsertion format nameToType file.path.group)
  | some (.plugin id) =>
      match plugins id file.content file.path.group file.dir with
      | .error _ => []
      | .ok items => items.map fun item => ⟨file.path.group, item.1, ⟨false, [item.2]⟩⟩

/-! ## What is loaded -/

variable {format} {plugins}

/-- The page after some insertions, in the same scope and with the same types. -/
def UnitsMetadata.applyAll (metadata : UnitsMetadata τ M) (insertions : List (UnitInsertion τ M)) :
    UnitsMetadata τ M :=
  insertions.foldl UnitsMetadata.apply metadata

section Applied

variable {metadata final : UnitsMetadata τ M} {insertions more : List (UnitInsertion τ M)}

theorem UnitsMetadata.applyAll_append : metadata.applyAll (insertions ++ more) =
    (metadata.applyAll insertions).applyAll more :=
  List.foldl_append

@[simp] theorem UnitsMetadata.nameToType_applyAll :
    (metadata.applyAll insertions).nameToType = metadata.nameToType := by
  induction insertions generalizing metadata with
  | nil => rfl
  | cons insertion rest ih => exact ih

@[simp] theorem UnitsMetadata.name_applyAll :
    (metadata.applyAll insertions).name = metadata.name := by
  induction insertions generalizing metadata with
  | nil => rfl
  | cons insertion rest ih => exact ih

/-- A loop whose steps put in what their entries declare puts in what all declare. -/
theorem each_applies {σ α : Type} (view : σ → UnitsMetadata τ M) (inv : σ → Prop)
    {entries : List α} {body : α → Prog σ CoreError Unit} {declares : α → List (UnitInsertion τ M)}
    (step : ∀ entry state state', inv state → body entry state = some (.ok (), state') →
      inv state' ∧ view state' = (view state).applyAll (declares entry))
    {state state' : σ} (holds : inv state)
    (ran : each entries body state = some (.ok (), state')) :
    inv state' ∧ view state' = (view state).applyAll (entries.flatMap declares) := by
  induction entries generalizing state with
  | nil =>
      cases ran
      exact ⟨holds, rfl⟩
  | cons entry rest ih =>
      rw [each_cons] at ran
      obtain ⟨err, -, same⟩ | ⟨_, middle, first, others⟩ := run_bind_cases ran
      · cases same
      · obtain ⟨kept, applied⟩ := step entry state middle holds first
        obtain ⟨final, all⟩ := ih kept others
        rw [List.flatMap_cons, UnitsMetadata.applyAll_append, ← applied]
        exact ⟨final, all⟩

theorem insertValue_ok {name group : Ustr} {value : V}
    (ran : insertValue format name value group metadata = some (.ok (), final)) :
    final = metadata.applyAll
      (sectionInsertion format metadata.nameToType group (name, value)).toList := by
  rw [insertValue, run_read_bind] at ran
  rw [sectionInsertion]
  cases known : metadata.nameToType.lookup name with
  | none =>
      rw [known] at ran
      cases ran
  | some type =>
      rw [known] at ran
      cases parsed : format.parse type value with
      | error error =>
          simp only [parsed] at ran
          cases ran
      | ok items =>
          simp only [parsed] at ran
          cases ran
          rw [Option.bind_some, parsed]
          rfl

omit [DecidableEq τ] in
/-- A section whose name is that of no type is left out. -/
theorem sectionInsertion_of_notMem {nameToType : AList fun _ : Ustr => τ} {group : Ustr}
    {entry : Ustr × V} (unknown : entry.1 ∉ nameToType) :
    sectionInsertion format nameToType group entry = none := by
  rw [sectionInsertion, AList.lookup_eq_none.mpr unknown, Option.bind_none]

theorem collectValue_ok {table : List (Ustr × V)} {group : Ustr}
    (ran : collectValue format table group metadata = some (.ok (), final)) :
    final = metadata.applyAll
      (table.filterMap (sectionInsertion format metadata.nameToType group)) := by
  rw [List.filterMap_eq_flatMap_toList]
  apply (each_applies id (fun page => page.nameToType = metadata.nameToType) ?_ rfl ran).2
  intro entry page page' same stepped
  rw [run_read_bind] at stepped
  split at stepped
  · have applied := insertValue_ok stepped
    rw [same] at applied
    rw [applied, UnitsMetadata.nameToType_applyAll]
    exact ⟨same, rfl⟩
  · rename_i unknown
    cases stepped
    rw [same, decide_eq_true_eq] at unknown
    rw [sectionInsertion_of_notMem unknown]
    exact ⟨same, rfl⟩

theorem loadPlugin_ok {plugin : PluginLoader τ M} {content : String} {group : Ustr}
    {unitsDir : UnitPath}
    (ran : loadPlugin plugin content group unitsDir metadata = some (.ok (), final)) :
    ∃ items, plugin content group unitsDir = .ok items ∧ final = metadata.applyAll
      (items.map fun item => ⟨group, item.1, ⟨false, [item.2]⟩⟩) := by
  rw [loadPlugin] at ran
  cases found : plugin content group unitsDir with
  | error error =>
      rw [found] at ran
      cases ran
  | ok items =>
      rw [found] at ran
      refine ⟨items, rfl, ?_⟩
      rw [List.map_eq_flatMap]
      apply (each_applies id (fun _ => True) ?_ trivial ran).2
      intro item page page' _ stepped
      cases stepped
      exact ⟨trivial, rfl⟩

/-- A file that is loaded puts in what it declares. -/
theorem loadUnit_ok {table : AList fun _ : Ustr => UnitLoader π} {loader : UnitLoader π}
    (file : UnitFile) (found : table.lookup file.path.loaderName = some loader)
    (ran : loadUnit format plugins loader file.content file.path.group file.dir metadata =
      some (.ok (), final)) :
    final = metadata.applyAll (fileInsertions format plugins table metadata.nameToType file) := by
  rw [fileInsertions, found]
  cases loader with
  | toml =>
      rw [loadUnit, fromToml] at ran
      cases read : format.fromStr file.content with
      | error error =>
          rw [read] at ran
          cases ran
      | ok sections =>
          rw [read] at ran
          exact collectValue_ok ran
  | plugin id =>
      obtain ⟨items, listed, applied⟩ := loadPlugin_ok ran
      simp only [listed]
      exact applied

end Applied

/-! ## Directories -/

section Directories

variable {trigger : Option (String → Ustr → UnitsMetadata τ M → Prog γ CoreError Unit)}
  {loading final : Loading (UnitLoader π) (UnitsState τ M γ)}

omit [DecidableEq τ] in
theorem onMetadata_ok {body : Prog (UnitsMetadata τ M) CoreError Unit}
    {state state' : UnitsState τ M γ} {registered : Option (Ustr × UnitLoader π)}
    (ran : onMetadata body state = some (.ok registered, state')) :
    registered = none ∧ body state.metadata = some (.ok (), state'.metadata) := by
  obtain ⟨⟨outcome, page⟩, inner, same⟩ := Option.map_eq_some_iff.mp ran
  cases outcome with
  | error error => cases same
  | ok _ =>
      cases same
      exact ⟨rfl, inner⟩

omit [DecidableEq τ] in
theorem onContext_ok {body : UnitsMetadata τ M → Prog γ CoreError Unit}
    {state state' : UnitsState τ M γ} {result : Except CoreError Unit}
    (ran : onContext body state = some (result, state')) : state'.metadata = state.metadata := by
  obtain ⟨inner, -, same⟩ := Option.map_eq_some_iff.mp ran
  cases same
  rfl

theorem loadFile_ok (held : loading.locked = true) {dir path : UnitPath}
    {content : Except String String}
    (ran : loadFile (unitLoaders format plugins trigger) dir path content loading =
      some (.ok (), final)) :
    ∃ text, content = .ok text ∧ final.state.metadata = loading.state.metadata.applyAll
      (fileInsertions format plugins loading.loaders loading.state.metadata.nameToType
        ⟨dir, path, text⟩) := by
  cases content with
  | error error =>
      rw [loadFile_unread] at ran
      cases ran
  | ok text =>
      refine ⟨text, rfl, ?_⟩
      cases found : loading.loaders.lookup path.loaderName with
      | none =>
          rw [loadFile_unknown found] at ran
          cases ran
          rw [fileInsertions, found]
          rfl
      | some loader =>
          rw [loadFile_held held found] at ran
          cases loaded : (unitLoaders format plugins trigger).load loader text path.group dir
              loading.state with
          | none =>
              rw [loaded] at ran
              cases ran
          | some result =>
              obtain ⟨outcome, state⟩ := result
              cases outcome with
              | error error =>
                  rw [loaded] at ran
                  cases ran
              | ok registered =>
                  obtain ⟨rfl, inner⟩ := onMetadata_ok loaded
                  have applied := loadUnit_ok ⟨dir, path, text⟩ found inner
                  rw [loaded] at ran
                  rw [← applied]
                  cases trigger with
                  | none =>
                      cases ran
                      rfl
                  | some trigger =>
                      obtain ⟨⟨result, last⟩, inner, same⟩ := Option.map_eq_some_iff.mp ran
                      cases same
                      exact onContext_ok inner

/-- A beginning of a directory that is loaded puts in what its files declare. -/
theorem LoadsFiles.applied {dir : UnitPath} {entries : List DirEntry}
    (loads : LoadsFiles (unitLoaders format plugins trigger) dir entries loading final)
    (held : loading.locked = true) :
    final.locked = true ∧ final.loaders = loading.loaders ∧
      final.state.metadata = loading.state.metadata.applyAll ((filesIn dir (.ok entries)).flatMap
        (fileInsertions format plugins loading.loaders loading.state.metadata.nameToType)) := by
  induction loads with
  | nil loading => exact ⟨held, rfl, rfl⟩
  | @cons path content rest loading middle final ran others ih =>
      obtain ⟨locked, table⟩ := loadFile_kept held ran
      obtain ⟨text, rfl, applied⟩ := loadFile_ok held ran
      obtain ⟨last, same, all⟩ := ih locked
      refine ⟨last, same.trans table, ?_⟩
      rw [all, table, applied, UnitsMetadata.nameToType_applyAll,
        ← UnitsMetadata.applyAll_append]
      rfl

theorem loadInDir_ok {dir : UnitPath} {entries : Except String (List DirEntry)}
    (ran : loadInDir (unitLoaders format plugins trigger) dir entries loading =
      some (.ok (), final)) :
    final.loaders = loading.loaders ∧
      final.state.metadata = loading.state.metadata.applyAll ((filesIn dir entries).flatMap
        (fileInsertions format plugins loading.loaders loading.state.metadata.nameToType)) := by
  cases entries with
  | error error =>
      rw [loadInDir] at ran
      cases ran
  | ok list =>
      rw [loadInDir] at ran
      cases held : loading.locked with
      | true =>
          rw [withLoaders_held _ held] at ran
          cases ran
      | false =>
          rw [withLoaders_free _ held] at ran
          obtain ⟨⟨result, last⟩, inner, same⟩ := Option.map_eq_some_iff.mp ran
          cases same
          have loads := loadsFiles_of_ok rfl inner
          exact (loads.applied rfl).2

/-- What a path list that is loaded leaves on the page. -/
theorem loadUnitsFrom_ok
    {exists_ : String → Option (UnitPath × Except String (List DirEntry))} {unitsDir : String}
    (ran : loadUnitsFrom (unitLoaders format plugins trigger) exists_ unitsDir loading =
      some (.ok (), final)) :
    final.state.metadata = loading.state.metadata.applyAll ((unitFiles exists_ unitsDir).flatMap
      (fileInsertions format plugins loading.loaders loading.state.metadata.nameToType)) := by
  rw [unitFiles, List.flatMap_assoc]
  apply (each_applies (fun loading : Loading (UnitLoader π) (UnitsState τ M γ) =>
    loading.state.metadata) (fun other => other.loaders = loading.loaders ∧
      other.state.metadata.nameToType = loading.state.metadata.nameToType) ?_ ⟨rfl, rfl⟩ ran).2
  rintro part other other' ⟨table, types⟩ stepped
  dsimp only at stepped ⊢
  split at stepped
  · rename_i blank
    cases stepped
    rw [if_pos blank]
    exact ⟨⟨table, types⟩, rfl⟩
  · rename_i some_
    rw [if_neg some_]
    cases found : exists_ (Text.trim part) with
    | none =>
        rw [found] at stepped
        cases stepped
        exact ⟨⟨table, types⟩, rfl⟩
    | some root =>
        rw [found] at stepped
        obtain ⟨table', applied⟩ := loadInDir_ok stepped
        rw [table, types] at applied
        rw [applied, UnitsMetadata.nameToType_applyAll]
        exact ⟨⟨table'.trans table, types⟩, rfl⟩

end Directories

/-! ## What can be looked up -/

section Found

variable [NamedItem M]

/-- The pages of one type. -/
def typedRegistry (pages : AList fun _ : Ustr => UnitsMetadata τ M) (type : τ) :
    MetadataRegistry M where
  metadata := Maps.select (fun page => some (page.typed type)) pages
  index := none

/-- A definition is what is found under the name of its group and its own one, in that
group. -/
def FoundIn (registry : MetadataRegistry M) (scope group : Ustr) (item : M) : Prop :=
  (parseScopedName (rslvns group (NamedItem.name item))).parent = group ∧
    registry.lookup scope (rslvns group (NamedItem.name item)) = some item

/-- All definitions are found on a page that is registered, whatever other pages there are. -/
def FindsDeclared (pages : AList fun _ : Ustr => UnitsMetadata τ M) (page : UnitsMetadata τ M)
    (insertions : List (UnitInsertion τ M)) : Prop :=
  ∀ insertion ∈ insertions, ∀ item ∈ insertion.write.items,
    FoundIn (typedRegistry (pages.insert page.name page) insertion.type) page.name
      insertion.group item

/-- The groups, types and names of all definitions. -/
def declaredNames (insertions : List (UnitInsertion τ M)) : List (Ustr × τ × Ustr) :=
  insertions.flatMap fun insertion => insertion.write.items.map fun item =>
    (insertion.group, insertion.type, NamedItem.name item)

/-- What is written to the list of a type in a group. -/
def writesTo (insertions : List (UnitInsertion τ M)) (group : Ustr) (type : τ) :
    List (Replacing.Write M) :=
  (insertions.filter fun insertion => insertion.group = group ∧ insertion.type = type).map
    UnitInsertion.write

/-- No definitions replace any of their type that are in their group before. -/
def ReplacesNone (insertions : List (UnitInsertion τ M)) : Prop :=
  ∀ group type, Replacing.ReplacesNothing [] (writesTo insertions group type)

/-- No group and no definition has a name that is taken apart otherwise. -/
def PlainNames (insertions : List (UnitInsertion τ M)) : Prop :=
  ∀ insertion ∈ insertions, ∀ item ∈ insertion.write.items,
    PlainPart insertion.group ∧ PlainPart (NamedItem.name item)

variable {scope group : Ustr} {type : τ} {insertions : List (UnitInsertion τ M)}
  {metadata : UnitsMetadata τ M} {pages : AList fun _ : Ustr => UnitsMetadata τ M}

omit [NamedItem M] in
theorem writesTo_cons (insertion : UnitInsertion τ M) (rest : List (UnitInsertion τ M)) :
    writesTo (insertion :: rest) group type =
      if insertion.group = group ∧ insertion.type = type then
        insertion.write :: writesTo rest group type
      else writesTo rest group type := by
  rw [writesTo, List.filter_cons]
  split
  · rename_i same
    rw [if_pos (of_decide_eq_true same), List.map_cons]
    rfl
  · rename_i other
    rw [if_neg fun same => other (decide_eq_true same)]
    rfl

omit [NamedItem M] in
theorem itemsIn_applyAll : (metadata.applyAll insertions).itemsIn group type =
    Replacing.replay (metadata.itemsIn group type) (writesTo insertions group type) := by
  induction insertions generalizing metadata with
  | nil => rfl
  | cons insertion rest ih =>
      change ((metadata.apply insertion).applyAll rest).itemsIn group type = _
      rw [ih, UnitsMetadata.apply, UnitsMetadata.itemsIn_put, writesTo_cons]
      split
      · rename_i same
        rw [Replacing.replay_cons, same.1, same.2]
      · rfl

omit [NamedItem M] in
theorem mem_written_writesTo {item : M} :
    item ∈ Replacing.written (writesTo insertions group type) ↔
      ∃ insertion ∈ insertions, insertion.group = group ∧ insertion.type = type ∧
        item ∈ insertion.write.items := by
  simp only [Replacing.written, writesTo, List.mem_flatMap, List.mem_map, List.mem_filter,
    decide_eq_true_eq]
  constructor
  · rintro ⟨_, ⟨insertion, ⟨listed, sameGroup, sameType⟩, rfl⟩, inside⟩
    exact ⟨insertion, listed, sameGroup, sameType, inside⟩
  · rintro ⟨insertion, listed, sameGroup, sameType, inside⟩
    exact ⟨_, ⟨insertion, ⟨listed, sameGroup, sameType⟩, rfl⟩, inside⟩

/-- Definitions with different names, for each group and type. -/
theorem nodup_names (distinct : (declaredNames insertions).Nodup) (group : Ustr) (type : τ) :
    ((Replacing.written (writesTo insertions group type)).map NamedItem.name).Nodup := by
  have inner : (((Replacing.written (writesTo insertions group type)).map NamedItem.name).map
      fun name => (group, type, name)).Sublist (declaredNames insertions) := by
    rw [Replacing.written, writesTo, declaredNames, List.flatMap_map]
    induction insertions with
    | nil => exact List.Sublist.slnil
    | cons insertion rest ih =>
        rw [List.filter_cons, List.flatMap_cons]
        have others := ih (List.nodup_append.mp distinct).2.1
        split
        · rename_i same
          rw [decide_eq_true_eq] at same
          rw [List.flatMap_cons, List.map_append, List.map_append, List.map_map, same.1, same.2]
          exact (List.Sublist.refl _).append others
        · exact others.trans (List.sublist_append_right _ _)
  exact (inner.nodup distinct).of_map _

/-- An item of a list whose items have different names is the one that its name finds. -/
theorem find?_name {items : List M} {item : M} (distinct : (items.map NamedItem.name).Nodup)
    (inside : item ∈ items) :
    items.find? (fun other => NamedItem.name other = NamedItem.name item) = some item := by
  obtain ⟨before, after, rfl⟩ := List.append_of_mem inside
  rw [List.find?_eq_some_iff_append]
  refine ⟨decide_eq_true rfl, before, after, rfl, ?_⟩
  intro other early
  rw [List.map_append, List.map_cons] at distinct
  have apart := (List.nodup_append.mp distinct).2.2 _ (List.mem_map_of_mem early) _
    List.mem_cons_self
  simpa using apart

/-- What is looked up on a registered page. -/
theorem lookup_typedRegistry (named : metadata.name ≠ "*") (name : Ustr) :
    (typedRegistry (pages.insert metadata.name metadata) type).lookup metadata.name name =
      (metadata.itemsIn (parseScopedName name).parent type).find? fun item =>
        NamedItem.name item = (parseScopedName name).child := by
  have loaded : (typedRegistry (pages.insert metadata.name metadata) type).metadata.lookup
      metadata.name = some (metadata.typed type) := by
    rw [typedRegistry, Maps.lookup_select, AList.lookup_insert]
    rfl
  have listed := AList.lookup_isSome.mp (Option.isSome_of_eq_some loaded)
  rw [MetadataRegistry.lookup, MetadataRegistry.resolveMetadataKey_of_mem named listed,
    MetadataRegistry.groupItems_of_lookup named loaded, UnitsMetadata.lookup_typed,
    UnitsMetadata.itemsIn]
  cases metadata.getInGroup (parseScopedName name).parent type <;> rfl

/-- Where a page is registered, a definition in it is found by a name that is taken apart into
its group and its own name, and only there. -/
theorem foundIn_iff {item : M} (named : metadata.name ≠ "*")
    (distinct : ((metadata.itemsIn group type).map NamedItem.name).Nodup) :
    FoundIn (typedRegistry (pages.insert metadata.name metadata) type) metadata.name group item ↔
      (PlainPart group ∧ PlainPart (NamedItem.name item)) ∧ item ∈ metadata.itemsIn group type := by
  rw [FoundIn, lookup_typedRegistry named]
  constructor
  · rintro ⟨parent, found⟩
    have child := List.find?_some found
    rw [decide_eq_true_eq] at child
    have inside := List.mem_of_find?_eq_some found
    rw [parent] at inside
    exact ⟨parseScopedName_rslvns.mp ⟨parent, child.symm⟩, inside⟩
  · rintro ⟨plain, inside⟩
    obtain ⟨parent, child⟩ := parseScopedName_rslvns.mpr plain
    refine ⟨parent, ?_⟩
    rw [parent, child]
    exact find?_name distinct inside

/-- A page of definitions with different names finds them all exactly where none are replaced
and all names are plain. -/
theorem findsDeclared_iff (named : metadata.name ≠ "*") (empty : metadata.values = ∅)
    (distinct : (declaredNames insertions).Nodup) :
    FindsDeclared pages (metadata.applyAll insertions) insertions ↔
      ReplacesNone insertions ∧ PlainNames insertions := by
  have fresh (group : Ustr) (type : τ) : metadata.itemsIn group type = [] := by
    rw [UnitsMetadata.itemsIn, UnitsMetadata.getInGroup, empty]
    rfl
  have items (group : Ustr) (type : τ) : (metadata.applyAll insertions).itemsIn group type =
      Replacing.replay [] (writesTo insertions group type) := by
    rw [itemsIn_applyAll, fresh]
  have found (insertion : UnitInsertion τ M) (item : M) :
      FoundIn (typedRegistry (pages.insert (metadata.applyAll insertions).name
          (metadata.applyAll insertions)) insertion.type) (metadata.applyAll insertions).name
          insertion.group item ↔
        (PlainPart insertion.group ∧ PlainPart (NamedItem.name item)) ∧
          item ∈ Replacing.replay [] (writesTo insertions insertion.group insertion.type) := by
    rw [← items]
    apply foundIn_iff
    · rwa [UnitsMetadata.name_applyAll]
    · rw [items]
      exact (Replacing.replay_sublist.map _).nodup (nodup_names distinct _ _)
  have apart (group : Ustr) (type : τ) :
      ([] ++ Replacing.written (writesTo insertions group type)).Nodup :=
    (nodup_names distinct group type).of_map
  constructor
  · intro all
    constructor
    · intro group type
      rw [← Replacing.keeps_iff (apart group type)]
      intro item inside
      obtain ⟨insertion, listed, rfl, rfl, held⟩ := mem_written_writesTo.mp inside
      exact ((found insertion item).mp (all insertion listed item held)).2
    · intro insertion listed item inside
      exact ((found insertion item).mp (all insertion listed item inside)).1
  · rintro ⟨keeps, plain⟩ insertion listed item inside
    rw [found]
    refine ⟨plain insertion listed item inside, ?_⟩
    apply (Replacing.keeps_iff (apart _ _)).mpr (keeps _ _)
    exact mem_written_writesTo.mpr ⟨insertion, listed, rfl, rfl, inside⟩

/-- The definitions that are built in, one after the other. -/
def addDefs (metadata : UnitsMetadata τ M) (defs : List (Ustr × τ × M)) : UnitsMetadata τ M :=
  defs.foldl (fun metadata definition =>
    metadata.insert definition.1 definition.2.1 definition.2.2) metadata

variable (format) (plugins) in
/-- All that is declared: what is built in, and what the files of a path list declare. -/
def declarations (table : AList fun _ : Ustr => UnitLoader π)
    (nameToType : AList fun _ : Ustr => τ) (defs : List (Ustr × τ × M))
    (exists_ : String → Option (UnitPath × Except String (List DirEntry))) (unitsDir : String) :
    List (UnitInsertion τ M) :=
  defs.map (fun definition => ⟨definition.1, definition.2.1, ⟨false, [definition.2.2]⟩⟩) ++
    (unitFiles exists_ unitsDir).flatMap (fileInsertions format plugins table nameToType)

omit [NamedItem M] in
theorem addDefs_eq (metadata : UnitsMetadata τ M) (defs : List (Ustr × τ × M)) :
    addDefs metadata defs = metadata.applyAll (defs.map fun definition =>
      ⟨definition.1, definition.2.1, ⟨false, [definition.2.2]⟩⟩) := by
  rw [UnitsMetadata.applyAll, List.foldl_map]
  rfl

/-- After a path list has been loaded, all definitions that are built in or declared by a file,
if their names differ, are found exactly where none are replaced and all names are plain. -/
theorem loadUnitsFrom_finds_iff
    {trigger : Option (String → Ustr → UnitsMetadata τ M → Prog γ CoreError Unit)}
    {loading final : Loading (UnitLoader π) (UnitsState τ M γ)}
    {nameToType : AList fun _ : Ustr => τ} {defs : List (Ustr × τ × M)}
    {exists_ : String → Option (UnitPath × Except String (List DirEntry))} {unitsDir : String}
    (named : scope ≠ "*") (starts : loading.state.metadata = addDefs (.new scope nameToType) defs)
    (ran : loadUnitsFrom (unitLoaders format plugins trigger) exists_ unitsDir loading =
      some (.ok (), final))
    (distinct : (declaredNames (declarations format plugins loading.loaders nameToType defs exists_
      unitsDir)).Nodup) :
    FindsDeclared pages final.state.metadata
        (declarations format plugins loading.loaders nameToType defs exists_ unitsDir) ↔
      ReplacesNone (declarations format plugins loading.loaders nameToType defs exists_ unitsDir) ∧
        PlainNames
          (declarations format plugins loading.loaders nameToType defs exists_ unitsDir) := by
  have page : final.state.metadata = (UnitsMetadata.new scope nameToType).applyAll
      (declarations format plugins loading.loaders nameToType defs exists_ unitsDir) := by
    rw [loadUnitsFrom_ok ran, starts, addDefs_eq, UnitsMetadata.nameToType_applyAll,
      ← UnitsMetadata.applyAll_append]
    rfl
  rw [page]
  exact findsDeclared_iff named rfl distinct

end Found

end Load

/-! ## A file that is named like a group -/

section Examples

/-- A type and its section. -/
inductive SectionType where
  | facet
  | impulse
  deriving DecidableEq

structure SampleDefinition where
  name : Ustr
  deriving DecidableEq

instance : NamedItem SampleDefinition := ⟨SampleDefinition.name⟩

/-- The text of a file with one facet. -/
def facetText (name : Ustr) : String := "[[facet]]\nname = \"" ++ name ++ "\"\n"

/-- What such texts mean. -/
def sampleFormat : UnitFormat SectionType SampleDefinition Ustr where
  fromStr text :=
    match Text.stripPrefix "[[facet]]\nname = \"" text with
    | some rest => .ok [("facet", Text.trimEndMatches "\"\n" rest)]
    | none => .error (.custom "expected a section")
  parse _ value := .ok [⟨value⟩]

/-- A directory with one file. -/
def sampleDir (file : String) (name : Ustr) (path : String) :
    Option (UnitPath × Except String (List DirEntry)) :=
  if path = "units" then
    some (unitsPath "units", .ok [.file (unitsPath file) (.ok (facetText name))])
  else none

/-- No plugins, and the one facet that says that the system is up. -/
def sampleLoading : Loading (UnitLoader Empty) (UnitsState SectionType SampleDefinition Unit) where
  loaders := AList.singleton "toml" .toml
  locked := false
  state :=
    ⟨addDefs (.new "static" (AList.singleton "facet" .facet)) [("rind", .facet, ⟨"up!"⟩)], ()⟩

def loadSample (file : String) (name : Ustr) : Option (Except CoreError Unit ×
    Loading (UnitLoader Empty) (UnitsState SectionType SampleDefinition Unit)) :=
  loadUnitsFrom (unitLoaders sampleFormat Empty.elim none) (sampleDir file name) "units"
    sampleLoading

def sampleDeclarations (file : String) (name : Ustr) :
    List (UnitInsertion SectionType SampleDefinition) :=
  declarations sampleFormat Empty.elim sampleLoading.loaders (AList.singleton "facet" .facet)
    [("rind", .facet, ⟨"up!"⟩)] (sampleDir file name) "units"

/-- What is there after a sample has been loaded. -/
def sampleFinal (file : String) (name : Ustr) :
    Loading (UnitLoader Empty) (UnitsState SectionType SampleDefinition Unit) :=
  ((loadSample file name).map fun result => result.2).getD sampleLoading

def sampleResult (file : String) (name : Ustr) : UnitsMetadata SectionType SampleDefinition :=
  (sampleFinal file name).state.metadata

theorem loadSample_eq {file : String} {name : Ustr}
    (ok : ((loadSample file name).map fun result => result.1) = some (.ok ())) :
    loadSample file name = some (.ok (), sampleFinal file name) := by
  rw [sampleFinal]
  cases ran : loadSample file name with
  | none =>
      rw [ran] at ok
      cases ok
  | some result =>
      rw [ran] at ok
      have outcome := Option.some.inj ok
      rw [Option.map_some, Option.getD_some, ← outcome]

theorem sampleResult_finds_iff :
    FindsDeclared ∅ (sampleResult "net.toml" "ready") (sampleDeclarations "net.toml" "ready") ↔
      ReplacesNone (sampleDeclarations "net.toml" "ready") ∧
        PlainNames (sampleDeclarations "net.toml" "ready") := by
  have starts : sampleLoading.state.metadata = addDefs
      (.new "static" (AList.singleton "facet" .facet)) [("rind", .facet, ⟨"up!"⟩)] := rfl
  have ran : loadSample "net.toml" "ready" = some (.ok (), sampleFinal "net.toml" "ready") :=
    loadSample_eq (by decide +kernel)
  exact loadUnitsFrom_finds_iff (by decide) starts ran (by decide +kernel)

/-- The facet of a file that is named like the group of what is built in takes the place of the
one that is there. -/
theorem not_findsDeclared_rind :
    ((loadSample "rind.toml" "idle").map fun result => result.1) = some (.ok ()) ∧
      (declaredNames (sampleDeclarations "rind.toml" "idle")).Nodup ∧
      ¬ FindsDeclared ∅ (sampleResult "rind.toml" "idle")
        (sampleDeclarations "rind.toml" "idle") := by
  refine ⟨by decide +kernel, by decide +kernel, ?_⟩
  intro finds
  have found := finds ⟨"rind", .facet, ⟨false, [⟨"up!"⟩]⟩⟩ (by decide +kernel) ⟨"up!"⟩
    List.mem_cons_self
  have lost : ¬ FoundIn (typedRegistry (AList.insert (sampleResult "rind.toml" "idle").name
      (sampleResult "rind.toml" "idle") ∅) .facet) (sampleResult "rind.toml" "idle").name "rind"
      (⟨"up!"⟩ : SampleDefinition) := by
    rw [FoundIn]
    decide +kernel
  exact lost found

end Examples

end Rind
