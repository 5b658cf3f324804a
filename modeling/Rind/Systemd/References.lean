import Mathlib.Data.List.Dedup
import Mathlib.Data.List.Sort
import Rind.Core.UnitFiles
import Rind.Flow.Facet
import Rind.Systemd.Ini

/-!
# References between systemd units

A unit file becomes a service or a facet in the group of its stem.  A reference
to a target becomes the name of a facet, any other reference stays the name of
the file.  The registry takes neither apart into the group and the name that the
loaded unit has.
-/

namespace Rind.Systemd

/-! ## Translation -/

/-- The facets of the targets that systemd has itself. -/
def knownTargets : List (String × String) :=
  [("network-online", "net:online!"),
   ("network", "net:configured!"),
   ("network-pre", "net:configured!"),
   ("multi-user", "rind:up!"),
   ("graphical", "rind:graphical"),
   ("sockets", "rind:sockets"),
   ("timers", "rind:timers"),
   ("paths", "rind:paths"),
   ("basic", "rind:basic"),
   ("sysinit", "rind:sysinit"),
   ("rescue", "rind:rescue"),
   ("emergency", "rind:emergency")]

@[irreducible] def targetToFacet (target : String) : String :=
  let stripped := Text.trimEndMatches ".target" target
  match knownTargets.lookup stripped with
  | some facet => facet
  | none => "systemd:" ++ stripped

@[irreducible] def targetRef (value : String) : Option String :=
  let trimmed := Text.trim value
  if Text.endsWith trimmed ".target" then
    let resolved := targetToFacet trimmed
    if resolved = "" then none else some resolved
  else none

def dependencyKeys : List String := ["After", "Requires", "Wants"]

def installKeys : List String := ["WantedBy", "RequiredBy"]

/-- The words of some keys. -/
def wordsOf (values : IniSection) (keys : List String) : List String :=
  keys.flatMap fun key => (allValues values key).flatMap splitWords

/-- What comes after, and the facets that are waited for. -/
def collectDependencies (unit : Option IniSection) : List String × List String :=
  match unit with
  | none => ([], [])
  | some values =>
      ((wordsOf values dependencyKeys).filter fun word => (targetRef word).isNone,
        (wordsOf values dependencyKeys).filterMap targetRef ++
          (wordsOf values installKeys).filterMap targetRef)

def referencedTargetsFrom (unit : Option IniSection) (wanted : List String) : List String :=
  let referenced := match unit with
    | none => []
    | some values => (wordsOf values (dependencyKeys ++ installKeys)).filterMap targetRef
  (wanted.filter (· ≠ "") ++ referenced).dedup.insertionSort (· ≤ ·)

inductive SystemdType where
  | service
  | facet
  deriving DecidableEq, Repr

/-- The service of a unit file. Of its definition this keeps what refers to others. -/
structure SystemdService where
  name : Ustr
  after : Option (List Ustr)
  startOn : Option (List FlowItem)
  deriving DecidableEq, Repr

inductive SystemdItem where
  | service (definition : SystemdService)
  | facet (definition : FlowFacetMetadata)
  deriving DecidableEq, Repr

instance : NamedItem SystemdItem where
  name
    | .service definition => definition.name
    | .facet definition => definition.name

def facetItem (name : Ustr) : FlowItem := .detailed (some name) none none none

def buildServiceMeta (name : Ustr) (after startOn : List String) : SystemdService where
  name := name
  after := if after = [] then none else some after
  startOn := if startOn = [] then none else some (startOn.map facetItem)

def buildFacetMeta (name : Ustr) : FlowFacetMetadata where
  name := name
  payload := .json
  stopOn := none
  after := none
  branch := none
  autoPayload := none
  subscribers := none

/-- Neither a service nor another unit with a section of its own. -/
def isTargetFile (ini : IniFile) : Bool :=
  (ini.sectionOf "service").isNone && (ini.sectionOf "socket").isNone &&
    (ini.sectionOf "timer").isNone && (ini.sectionOf "mount").isNone &&
    (ini.sectionOf "automount").isNone && (ini.sectionOf "unit").isSome

/-- The facets of a target file: those it refers to, and its own. -/
def emitFacets (name : Ustr) (ini : IniFile) : List String :=
  let unit := ini.sectionOf "unit"
  let referenced := referencedTargetsFrom unit (collectDependencies unit).2
  let own := targetToFacet name
  if own ≠ "" ∧ own ∉ referenced then referenced ++ [own] else referenced

/-- What `load_into` puts into the page, as far as it is a service or a facet. -/
def loadInto (name : Ustr) (ini : IniFile) : List (UnitInsertion SystemdType SystemdItem) :=
  let dependencies := collectDependencies (ini.sectionOf "unit")
  (match ini.sectionOf "service" with
    | some _ =>
        [⟨name, .service,
          ⟨false, [.service (buildServiceMeta name dependencies.1 dependencies.2)]⟩⟩]
    | none => []) ++
  (if isTargetFile ini then
    (emitFacets name ini).map fun facet =>
      ⟨name, .facet, ⟨false, [.facet (buildFacetMeta facet)]⟩⟩
  else [])

/-- The extensions that the loader is registered for. -/
def systemdExtensions : List String :=
  ["service", "socket", "timer", "mount", "automount", "target"]

/-- A unit file. -/
structure SystemdFile where
  stem : Ustr
  extension : String
  content : String
  known : extension ∈ systemdExtensions
  deriving DecidableEq

namespace SystemdFile

def fileName (file : SystemdFile) : String := file.stem ++ "." ++ file.extension

def ini (file : SystemdFile) : IniFile := parseIni file.content

def insertions (file : SystemdFile) : List (UnitInsertion SystemdType SystemdItem) :=
  loadInto file.stem file.ini

/-- What a file names in After, Requires and Wants. -/
def references (file : SystemdFile) : List String :=
  match file.ini.sectionOf "unit" with
  | none => []
  | some values => wordsOf values dependencyKeys

/-- The facets of the targets that a file names. -/
def targetNames (file : SystemdFile) : List String :=
  match file.ini.sectionOf "unit" with
  | none => []
  | some values => (wordsOf values (dependencyKeys ++ installKeys)).filterMap targetRef

/-- A service of the files refers to another one of them. -/
def RefersTo (files : List SystemdFile) (file other : SystemdFile) : Prop :=
  file ∈ files ∧ (file.ini.sectionOf "service").isSome ∧ other ∈ files ∧ other ≠ file ∧
    other.fileName ∈ file.references

end SystemdFile

open SystemdFile (RefersTo)

/-! ## What is found -/

section Found

variable (pages : AList fun _ : Ustr => UnitsMetadata SystemdType SystemdItem)
  (page : UnitsMetadata SystemdType SystemdItem)

/-- What the registry finds under a name on the page. -/
def lookupOn (type : SystemdType) (name : Ustr) : Option SystemdItem :=
  (typedRegistry (pages.insert page.name page) type).lookup page.name name

/-- Each reference of a service to another unit is translated to a name that finds
the service of the unit, or a facet; and each target that a target file names to
one that finds a facet. -/
structure AllFound (files : List SystemdFile) : Prop where
  services (file other : SystemdFile) : RefersTo files file other →
    match targetRef other.fileName with
    | some facet => ∃ item, lookupOn pages page .facet facet = some item
    | none => ∃ item, lookupOn pages page .service other.fileName = some item ∧
        ∃ insertion ∈ other.insertions, insertion.type = .service ∧ item ∈ insertion.write.items
  targets (file : SystemdFile) : file ∈ files → isTargetFile file.ini →
    ∀ facet ∈ file.targetNames, ∃ item, lookupOn pages page .facet facet = some item

/-- The page has a facet of the name, in the group that the name says. -/
def FacetDefined (name : Ustr) : Prop :=
  ∃ item ∈ page.itemsIn (parseScopedName name).parent .facet,
    NamedItem.name item = (parseScopedName name).child

/-- The page that the files have been loaded into. -/
def loaded (files : List SystemdFile) : UnitsMetadata SystemdType SystemdItem :=
  page.applyAll (files.flatMap SystemdFile.insertions)

/-- Services refer to targets only, and all facets that targets are translated to are
there without the files. -/
structure OnlyDefinedTargets (files : List SystemdFile) : Prop where
  services (file other : SystemdFile) : RefersTo files file other →
    ∃ facet, targetRef other.fileName = some facet ∧ FacetDefined page facet
  targets (file : SystemdFile) : file ∈ files → isTargetFile file.ini →
    ∀ facet ∈ file.targetNames, FacetDefined page facet

end Found

/-! ## The names that are translated to -/

theorem colon_knownTargets : ∀ known ∈ knownTargets, ':' ∈ known.2.toList := by
  simp [knownTargets]

theorem colon_targetToFacet (target : String) : ':' ∈ (targetToFacet target).toList := by
  unfold targetToFacet
  dsimp only
  cases known : knownTargets.lookup (Text.trimEndMatches ".target" target) with
  | some facet =>
      obtain ⟨before, after, split, _⟩ := List.lookup_eq_some_iff.mp known
      apply colon_knownTargets (_, facet)
      rw [split]
      exact List.mem_append_right _ List.mem_cons_self
  | none =>
      rw [String.toList_append]
      exact List.mem_append_left _ (by decide)

theorem colon_targetRef {value facet : String} (translated : targetRef value = some facet) :
    ':' ∈ facet.toList := by
  simp only [targetRef] at translated
  split at translated
  · split at translated
    · cases translated
    · rw [← Option.some.inj translated]
      exact colon_targetToFacet _
  · cases translated

/-- No facet of a target file has a name that is part of a name. -/
theorem colon_emitFacets {name facet : String} {ini : IniFile}
    (emitted : facet ∈ emitFacets name ini) : ':' ∈ facet.toList := by
  have referenced : facet ∈ referencedTargetsFrom (ini.sectionOf "unit")
      (collectDependencies (ini.sectionOf "unit")).2 → ':' ∈ facet.toList := by
    intro inside
    cases unit : ini.sectionOf "unit" with
    | none =>
        rw [unit] at inside
        simp [collectDependencies, referencedTargetsFrom] at inside
    | some values =>
        rw [unit] at inside
        simp only [referencedTargetsFrom, List.mem_insertionSort, List.mem_dedup,
          List.mem_append] at inside
        have translated : ∃ word, targetRef word = some facet := by
          rcases inside with wanted | named
          · have inWanted := (List.mem_filter.mp wanted).1
            rcases List.mem_append.mp inWanted with first | second
            · obtain ⟨word, _, same⟩ := List.mem_filterMap.mp first
              exact ⟨word, same⟩
            · obtain ⟨word, _, same⟩ := List.mem_filterMap.mp second
              exact ⟨word, same⟩
          · obtain ⟨word, _, same⟩ := List.mem_filterMap.mp named
            exact ⟨word, same⟩
        obtain ⟨word, same⟩ := translated
        exact colon_targetRef same
  simp only [emitFacets] at emitted
  split at emitted
  · rcases List.mem_append.mp emitted with inside | own
    · exact referenced inside
    · rw [List.mem_singleton.mp own]
      exact colon_targetToFacet name
  · exact referenced emitted

/-- What the files put into the page: services by the names of their groups, and facets
with names that are no part of a name. All of it comes behind what is there. -/
theorem mem_loadInto {name : Ustr} {ini : IniFile}
    {insertion : UnitInsertion SystemdType SystemdItem} (inside : insertion ∈ loadInto name ini) :
    insertion.write.replaces = false ∧
      (insertion.type = .service ∧ (∀ item ∈ insertion.write.items, NamedItem.name item = name) ∨
        insertion.type = .facet ∧
          ∀ item ∈ insertion.write.items, ':' ∈ (NamedItem.name item : Ustr).toList) := by
  simp only [loadInto] at inside
  rcases List.mem_append.mp inside with service | facets
  · split at service
    · rw [List.mem_singleton.mp service]
      refine ⟨rfl, .inl ⟨rfl, fun item isItem => ?_⟩⟩
      rw [List.mem_singleton.mp isItem]
      rfl
    · exact absurd service List.not_mem_nil
  · split at facets
    · obtain ⟨facet, emitted, rfl⟩ := List.mem_map.mp facets
      refine ⟨rfl, .inr ⟨rfl, fun item isItem => ?_⟩⟩
      rw [List.mem_singleton.mp isItem]
      exact colon_emitFacets emitted
    · exact absurd facets List.not_mem_nil

/-- A name without separators is its own last part. -/
theorem child_parseScopedName {name : Ustr} (plain : PlainPart name) :
    (parseScopedName name).child = name := by
  have pieces : Text.split ':' name = [name] := by
    have passes : ∀ c ∈ name.toList, (c == ':') = false := by
      intro c inside
      rw [beq_eq_false_iff_ne]
      rintro rfl
      exact plain.1 inside
    rw [Text.split, List.splitOn_eq_splitOnP, List.splitOnP_eq_singleton passes]
    simp
  rw [parseScopedName, Text.splitOnce_of_notMem plain.2]
  simp [pieces]

/-- The name of a file is not taken apart into its stem. -/
theorem child_fileName (file : SystemdFile) :
    (parseScopedName file.fileName).child ≠ file.stem := by
  intro same
  have plainStem := (parseScopedName_plain file.fileName).2
  rw [same] at plainStem
  have plainExtension : PlainPart file.extension := by
    have every : ∀ extension ∈ systemdExtensions, PlainPart extension := by
      simp [systemdExtensions, PlainPart]
    exact every _ file.known
  have plain : PlainPart file.fileName := by
    rw [PlainPart, SystemdFile.fileName, String.toList_append, String.toList_append]
    constructor
    · simp [plainStem.1, plainExtension.1]
    · simp [plainStem.2, plainExtension.2]
  rw [child_parseScopedName plain] at same
  have lengths := congrArg (fun name => name.toList.length) same
  simp only [SystemdFile.fileName, String.toList_append, List.length_append] at lengths
  have dot : ".".toList.length = 1 := rfl
  omega

section Lookup

variable {pages : AList fun _ : Ustr => UnitsMetadata SystemdType SystemdItem}
  {page : UnitsMetadata SystemdType SystemdItem} {files : List SystemdFile}

variable (page files) in
/-- The files add to what is in a group. -/
theorem itemsIn_loaded (group : Ustr) (type : SystemdType) :
    ∃ items, (loaded page files).itemsIn group type = page.itemsIn group type ++ items ∧
      (type = .facet → ∀ item ∈ items, ':' ∈ (NamedItem.name item : Ustr).toList) := by
  use Replacing.written (writesTo (files.flatMap SystemdFile.insertions) group type)
  constructor
  · rw [loaded, itemsIn_applyAll]
    apply Replacing.replay_of_replacesNothing
    intro before write after split replaces
    have inside : write ∈ writesTo (files.flatMap SystemdFile.insertions) group type := by
      rw [split]
      exact List.mem_append_right _ List.mem_cons_self
    obtain ⟨insertion, listed, rfl⟩ := List.mem_map.mp inside
    obtain ⟨file, _, inFile⟩ := List.mem_flatMap.mp (List.mem_filter.mp listed).1
    rw [(mem_loadInto inFile).1] at replaces
    cases replaces
  · rintro rfl item isItem
    obtain ⟨insertion, listed, _, isFacet, inside⟩ := mem_written_writesTo.mp isItem
    obtain ⟨file, _, inFile⟩ := List.mem_flatMap.mp listed
    rcases (mem_loadInto inFile).2 with ⟨isService, _⟩ | ⟨_, colons⟩
    · rw [isFacet] at isService
      cases isService
    · exact colons item inside

/-- A facet is found exactly where it is there without the files. -/
theorem lookupOn_facet_iff (named : page.name ≠ "*") (name : Ustr) :
    (∃ item, lookupOn pages (loaded page files) .facet name = some item) ↔
      FacetDefined page name := by
  obtain ⟨items, added, colons⟩ := itemsIn_loaded page files
    (parseScopedName name).parent .facet
  have loadedNamed : (loaded page files).name ≠ "*" := by
    rwa [loaded, UnitsMetadata.name_applyAll]
  have none_ : items.find? (fun item => NamedItem.name item = (parseScopedName name).child) =
      none := by
    rw [List.find?_eq_none]
    intro item inside same
    have plain := (parseScopedName_plain name).2.1
    rw [← of_decide_eq_true same] at plain
    exact plain (colons rfl item inside)
  rw [lookupOn, lookup_typedRegistry loadedNamed, added, List.find?_append, none_, Option.or_none,
    FacetDefined]
  constructor
  · rintro ⟨item, found⟩
    have child := List.find?_some found
    rw [decide_eq_true_eq] at child
    exact ⟨item, List.mem_of_find?_eq_some found, child⟩
  · rintro ⟨item, inside, same⟩
    exact Option.isSome_iff_exists.mp (List.find?_isSome.mpr ⟨item, inside, decide_eq_true same⟩)

/-- The service of a unit is not found under the name of its file. -/
theorem lookupOn_service_ne (named : page.name ≠ "*") (file : SystemdFile) (item : SystemdItem)
    (found : lookupOn pages (loaded page files) .service file.fileName = some item) :
    ¬ ∃ insertion ∈ file.insertions, insertion.type = .service ∧ item ∈ insertion.write.items := by
  have loadedNamed : (loaded page files).name ≠ "*" := by
    rwa [loaded, UnitsMetadata.name_applyAll]
  rw [lookupOn, lookup_typedRegistry loadedNamed] at found
  have child := List.find?_some found
  rw [decide_eq_true_eq] at child
  rintro ⟨insertion, inFile, isService, inside⟩
  rcases (mem_loadInto inFile).2 with ⟨_, names⟩ | ⟨isFacet, _⟩
  · rw [names item inside] at child
    exact child_fileName file child.symm
  · rw [isService] at isFacet
    cases isFacet

/-- References between units are resolved exactly where services refer to targets only,
whose facets are defined without the files, as do the target files. -/
theorem allFound_iff (pages : AList fun _ : Ustr => UnitsMetadata SystemdType SystemdItem)
    (page : UnitsMetadata SystemdType SystemdItem) (files : List SystemdFile)
    (named : page.name ≠ "*") :
    AllFound pages (loaded page files) files ↔ OnlyDefinedTargets page files := by
  constructor
  · rintro ⟨services, targets⟩
    constructor
    · intro file other refers
      have found := services file other refers
      cases translated : targetRef other.fileName with
      | none =>
          rw [translated] at found
          obtain ⟨item, isFound, own⟩ := found
          exact absurd own (lookupOn_service_ne named other item isFound)
      | some facet =>
          rw [translated] at found
          exact ⟨facet, rfl, (lookupOn_facet_iff named facet).mp found⟩
    · intro file inside isTarget facet names
      exact (lookupOn_facet_iff named facet).mp (targets file inside isTarget facet names)
  · rintro ⟨services, targets⟩
    constructor
    · intro file other refers
      obtain ⟨facet, translated, defined⟩ := services file other refers
      rw [translated]
      exact (lookupOn_facet_iff named facet).mpr defined
    · intro file inside isTarget facet names
      exact (lookupOn_facet_iff named facet).mpr (targets file inside isTarget facet names)

end Lookup

/-! ## A target, and another service -/

section Examples

/-- The static page, with the facet that the network is online. -/
def networkPage : UnitsMetadata SystemdType SystemdItem :=
  (UnitsMetadata.new "static" ∅).put "net" .facet [.facet (buildFacetMeta "online!")]

def unitFile (stem content : String) : SystemdFile := ⟨stem, "service", content, by decide⟩

def sshdFiles : List SystemdFile :=
  [unitFile "sshd" "[Unit]\nAfter=network-online.target\n[Service]\nExecStart=/bin/sshd\n",
   ⟨"network-online", "target", "[Unit]\nDescription=online\n", by decide⟩]

theorem facetDefined_networkPage : FacetDefined networkPage "net:online!" := by
  use .facet (buildFacetMeta "online!")
  constructor <;> decide +kernel

theorem onlyDefinedTargets_sshdFiles : OnlyDefinedTargets networkPage sshdFiles := by
  constructor
  · rintro file other ⟨_, isService, otherInside, differs, _⟩
    have others : ∀ file ∈ sshdFiles, (file.ini.sectionOf "service").isSome →
        ∀ other ∈ sshdFiles, other ≠ file →
          targetRef other.fileName = some "net:online!" := by decide +kernel
    exact ⟨_, others file ‹_› isService other otherInside differs, facetDefined_networkPage⟩
  · intro file inside isTarget facet names
    have none_ : ∀ file ∈ sshdFiles, isTargetFile file.ini → file.targetNames = [] := by
      decide +kernel
    rw [none_ file inside isTarget] at names
    cases names

theorem allFound_sshdFiles : AllFound ∅ (loaded networkPage sshdFiles) sshdFiles :=
  (allFound_iff ∅ networkPage sshdFiles (by decide)).mpr onlyDefinedTargets_sshdFiles

def dependentFile : SystemdFile :=
  unitFile "a" "[Unit]\nAfter=b.service\n[Service]\nExecStart=/bin/a\n"

def dependencyFile : SystemdFile := unitFile "b" "[Service]\nExecStart=/bin/b\n"

theorem refersTo_dependencyFile :
    RefersTo [dependentFile, dependencyFile] dependentFile dependencyFile := by
  unfold RefersTo
  decide +kernel

theorem not_allFound_dependentFile :
    ¬ AllFound ∅ (loaded networkPage [dependentFile, dependencyFile])
      [dependentFile, dependencyFile] := by
  intro found
  have service := found.services _ _ refersTo_dependencyFile
  have other : targetRef dependencyFile.fileName = none := by decide +kernel
  rw [other] at service
  obtain ⟨item, isFound, own⟩ := service
  exact lookupOn_service_ne (by decide) dependencyFile item isFound own

end Examples

end Rind.Systemd
