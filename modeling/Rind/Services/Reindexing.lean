import Rind.Prog.Runs
import Rind.Services.Declared

/-!
# Indexes over reloads

Four indexes are made of the definitions: two of the facets, one of the services and one
of the sockets.  A reload of the units makes those of the services and of the sockets
anew where a dynamic scope is to be loaded, and those of the facets never.
-/

namespace Rind

open Runs

/-! ## The definitions -/

/-- The definitions of a page that the indexes are made of, by their groups. -/
structure IndexedPage where
  facets : AList fun _ : Ustr => List FlowFacetMetadata
  services : AList fun _ : Ustr => List ServiceMetadata
  sockets : AList fun _ : Ustr => List SocketMetadata

abbrev IndexedPages : Type := AList fun _ : Ustr => IndexedPage

/-- The definitions of one type. -/
def IndexedPages.registry {M : Type} (pages : IndexedPages)
    (part : IndexedPage → AList fun _ : Ustr => List M) : MetadataRegistry M where
  metadata :=
    { entries := pages.entries.map fun page => ⟨page.1, ⟨page.1, part page.2⟩⟩
      nodupKeys := by
        rw [List.NodupKeys, List.keys, List.map_map]
        exact pages.nodupKeys }
  index := none

/-- The facets under their names, with the names they depend on. -/
def facetInterests (dependsOn : FlowFacetMetadata → List Ustr)
    (metadata : MetadataRegistry FlowFacetMetadata) : List (Ustr × List Ustr) :=
  metadata.allItems.map fun item => (rslvns item.1 item.2.name, dependsOn item.2)

namespace IndexedPages

variable (pages : IndexedPages)

def facetIndexes : FlowRuntime := refreshMetadataAndIndexes (pages.registry IndexedPage.facets)

def afterInterests : List (Ustr × List Ustr) :=
  facetInterests afterSources (pages.registry IndexedPage.facets)

def stopOnInterests : List (Ustr × List Ustr) :=
  facetInterests stopOnSources (pages.registry IndexedPage.facets)

def serviceTriggers : List (Ustr × List Ustr) :=
  serviceInterests (pages.registry IndexedPage.services)

def socketTriggers : List (Ustr × List Ustr) :=
  socketInterests (pages.registry IndexedPage.sockets)

end IndexedPages

/-! ## Reloads -/

/-- The indexes, the definitions, and what a reload looks at. The last three fields are
the definitions that each runtime has read last. -/
structure IndexSystem where
  pages : IndexedPages
  /-- The scopes that are to be there. -/
  desiredScopes : List Ustr
  pendingScopes : List Ustr
  reloadStatic : Bool
  flow : FlowRuntime
  services : AList fun _ : Ustr => List Ustr
  sockets : AList fun _ : Ustr => List Ustr
  flowRead : IndexedPages
  servicesRead : IndexedPages
  socketsRead : IndexedPages

/-- What the unit files are when they are collected: the page of each scope that can
be loaded, and whether an error ends the collection before the dynamic scopes. -/
structure UnitFiles where
  page : Ustr → Option IndexedPage
  failed : Bool

namespace IndexSystem

variable (system : IndexSystem)

def bootstrapFlow : IndexSystem :=
  { system with flow := system.pages.facetIndexes, flowRead := system.pages }

def bootstrapServices : IndexSystem :=
  { system with
    services := indexInterests system.pages.serviceTriggers
    servicesRead := system.pages }

def bootstrapSockets : IndexSystem :=
  { system with
    sockets := indexInterests system.pages.socketTriggers
    socketsRead := system.pages }

/-- The first half of `evaluate_triggers`. -/
def evaluateServices : IndexSystem :=
  if system.services.keys.isEmpty then system.bootstrapServices else system

def evaluateSockets : IndexSystem :=
  if system.sockets.keys.isEmpty then system.bootstrapSockets else system

/-- Load the page of a scope unless it is there. -/
def loadPage (files : UnitFiles) (pages : IndexedPages) (scope : Ustr) : IndexedPages :=
  if scope ∈ pages then pages
  else
    match files.page scope with
    | some page => pages.insert scope page
    | none => pages

/-- The scopes that a collection loads over the default scope. -/
def dynamicScopes : List Ustr := system.desiredScopes.filter (· ≠ "static")

/-- Collect the units. -/
def preload (files : UnitFiles) : IndexSystem :=
  let pages := loadPage files system.pages "static"
  if files.failed then { system with pages }
  else
    { system with
      pages := system.dynamicScopes.foldl (loadPage files) pages
      pendingScopes := system.dynamicScopes ∪ system.pendingScopes }

/-- The pages that a reload takes away. -/
def toRemove : List Ustr :=
  if system.reloadStatic then system.pages.keys else system.pages.keys.filter (· ≠ "static")

def reloadUnitsCollection (files : UnitFiles) : IndexSystem :=
  let left := system.toRemove.foldl (fun pages name => pages.erase name) system.pages
  { system with pages := left, reloadStatic := false }.preload files

/-- The triggers that are evaluated after this find indexes that have just been made. -/
def reloadScopes : IndexSystem :=
  if system.pendingScopes.isEmpty then system
  else { system.bootstrapServices.bootstrapSockets with pendingScopes := [] }

/-- `ReloadUnits`, with the flush of the primary context. -/
def reloadUnits (files : UnitFiles) : IndexSystem :=
  (system.reloadUnitsCollection files).reloadScopes

/-- The system once it has booted with some units. -/
def boot (pages : IndexedPages) : IndexSystem where
  pages
  desiredScopes := []
  pendingScopes := []
  reloadStatic := false
  flow := pages.facetIndexes
  services := indexInterests pages.serviceTriggers
  sockets := indexInterests pages.socketTriggers
  flowRead := pages
  servicesRead := pages
  socketsRead := pages

end IndexSystem

/-- What happens between and with reloads. -/
inductive IndexStep where
  | reload (files : UnitFiles)
  | evaluateServices
  | evaluateSockets
  | desire (scope : Ustr)
  | abandon (scope : Ustr)
  | reloadStatic

def IndexSystem.step (system : IndexSystem) : IndexStep → IndexSystem
  | .reload files => system.reloadUnits files
  | .evaluateServices => system.evaluateServices
  | .evaluateSockets => system.evaluateSockets
  | .desire scope => { system with desiredScopes := system.desiredScopes.insert scope }
  | .abandon scope => { system with desiredScopes := system.desiredScopes.erase scope }
  | .reloadStatic => { system with reloadStatic := true }

/-! ## Indexes that are current -/

/-- Two indexes that list the same. -/
def SameIndex (left right : AList fun _ : Ustr => List Ustr) : Prop :=
  ∀ source target, target ∈ targetsOf left source ↔ target ∈ targetsOf right source

/-- The indexes are those that would be made of the definitions that are loaded. -/
structure IndexSystem.Current (system : IndexSystem) : Prop where
  transcendence :
    SameIndex system.flow.transcendenceIndex system.pages.facetIndexes.transcendenceIndex
  inverse :
    SameIndex system.flow.inverseTranscendenceIndex
      system.pages.facetIndexes.inverseTranscendenceIndex
  services : SameIndex system.services (indexInterests system.pages.serviceTriggers)
  sockets : SameIndex system.sockets (indexInterests system.pages.socketTriggers)

/-- A reload leaves the indexes current. -/
def EndsCurrent (system : IndexSystem) : IndexStep → Prop
  | .reload files => (system.reloadUnits files).Current
  | _ => True

/-- The same names are of interest to the same definitions. -/
def SameInterests (left right : List (Ustr × List Ustr)) : Prop :=
  ∀ source target, (∃ entry ∈ left, source ∈ entry.2 ∧ target = entry.1) ↔
    ∃ entry ∈ right, source ∈ entry.2 ∧ target = entry.1

/-- The collection leaves what the facets depend on as the runtime of the facets has
read it, and unless a scope is pending it does so for the services and the sockets. -/
structure IndexSystem.KeepsInterests (system collected : IndexSystem) : Prop where
  transcendence : SameInterests system.flowRead.afterInterests collected.pages.afterInterests
  inverse : SameInterests system.flowRead.stopOnInterests collected.pages.stopOnInterests
  services : collected.pendingScopes = [] →
    SameInterests system.servicesRead.serviceTriggers collected.pages.serviceTriggers
  sockets : collected.pendingScopes = [] →
    SameInterests system.socketsRead.socketTriggers collected.pages.socketTriggers

/-- A reload changes no interest that has been read and is not read again. -/
def ChangesNoRead (system : IndexSystem) : IndexStep → Prop
  | .reload files => system.KeepsInterests (system.reloadUnitsCollection files)
  | _ => True

/-! ## What the runtimes have read -/

/-- The indexes are those of the definitions that the runtimes have read. -/
structure IndexSystem.Read (system : IndexSystem) : Prop where
  flow : system.flow = system.flowRead.facetIndexes
  services : system.services = indexInterests system.servicesRead.serviceTriggers
  sockets : system.sockets = indexInterests system.socketsRead.socketTriggers

namespace IndexSystem

variable {system : IndexSystem}

theorem boot_read (pages : IndexedPages) : (boot pages).Read := ⟨rfl, rfl, rfl⟩

theorem Read.bootstrapServices (read : system.Read) : system.bootstrapServices.Read :=
  ⟨read.flow, rfl, read.sockets⟩

theorem Read.bootstrapSockets (read : system.Read) : system.bootstrapSockets.Read :=
  ⟨read.flow, read.services, rfl⟩

theorem Read.reloadUnitsCollection (read : system.Read) (files : UnitFiles) :
    (system.reloadUnitsCollection files).Read := by
  rw [IndexSystem.reloadUnitsCollection, preload]
  dsimp only
  split
  · exact ⟨read.flow, read.services, read.sockets⟩
  · exact ⟨read.flow, read.services, read.sockets⟩

theorem Read.reloadScopes (read : system.Read) : system.reloadScopes.Read := by
  rw [IndexSystem.reloadScopes]
  split
  · exact read
  · exact ⟨read.flow, rfl, rfl⟩

/-- Every step leaves the indexes as they have been read. -/
theorem Read.step (read : system.Read) (step : IndexStep) : (system.step step).Read := by
  cases step with
  | reload files => exact (read.reloadUnitsCollection files).reloadScopes
  | evaluateServices =>
      rw [IndexSystem.step, evaluateServices]
      split
      · exact read.bootstrapServices
      · exact read
  | evaluateSockets =>
      rw [IndexSystem.step, evaluateSockets]
      split
      · exact read.bootstrapSockets
      · exact read
  | desire scope => exact ⟨read.flow, read.services, read.sockets⟩
  | abandon scope => exact ⟨read.flow, read.services, read.sockets⟩
  | reloadStatic => exact ⟨read.flow, read.services, read.sockets⟩

/-! ## Reloads that leave the indexes current -/

/-- An index of the facets lists what they depend on. -/
theorem mem_facetIndex {dependsOn : FlowFacetMetadata → List Ustr}
    {metadata : MetadataRegistry FlowFacetMetadata} {source target : Ustr} :
    target ∈ targetsOf (rebuildIndex dependsOn metadata) source ↔
      ∃ entry ∈ facetInterests dependsOn metadata, source ∈ entry.2 ∧ target = entry.1 := by
  rw [mem_rebuildIndex, facetInterests]
  simp only [List.mem_map]
  constructor
  · rintro ⟨item, listed, named, same⟩
    exact ⟨_, ⟨item, listed, rfl⟩, named, same⟩
  · rintro ⟨_, ⟨item, listed, rfl⟩, named, same⟩
    exact ⟨item, listed, named, same⟩

theorem sameIndex_facets {dependsOn : FlowFacetMetadata → List Ustr}
    {old new : MetadataRegistry FlowFacetMetadata} :
    SameIndex (rebuildIndex dependsOn old) (rebuildIndex dependsOn new) ↔
      SameInterests (facetInterests dependsOn old) (facetInterests dependsOn new) := by
  rw [SameIndex, SameInterests]
  simp only [mem_facetIndex]

theorem sameIndex_triggers {old new : List (Ustr × List Ustr)} :
    SameIndex (indexInterests old) (indexInterests new) ↔ SameInterests old new := by
  rw [SameIndex, SameInterests]
  simp only [mem_targetsOf_indexInterests]

/-- The collection reads nothing, and takes no pending scope away. -/
theorem reloadUnitsCollection_read (system : IndexSystem) (files : UnitFiles) :
    (system.reloadUnitsCollection files).flowRead = system.flowRead ∧
      (system.reloadUnitsCollection files).servicesRead = system.servicesRead ∧
        (system.reloadUnitsCollection files).socketsRead = system.socketsRead := by
  rw [reloadUnitsCollection, preload]
  dsimp only
  split
  · exact ⟨rfl, rfl, rfl⟩
  · exact ⟨rfl, rfl, rfl⟩

/-- Reading the scopes that are pending makes the indexes current exactly if nothing else
has changed. -/
theorem Read.reloadScopes_current_iff (read : system.Read) :
    system.reloadScopes.Current ↔ system.KeepsInterests system := by
  have flowIndexes : system.reloadScopes.flow = system.flowRead.facetIndexes := by
    rw [IndexSystem.reloadScopes]
    split
    · exact read.flow
    · exact read.flow
  have pages : system.reloadScopes.pages = system.pages := by
    rw [IndexSystem.reloadScopes]
    split <;> rfl
  have triggers :
      (SameIndex system.reloadScopes.services (indexInterests system.pages.serviceTriggers) ↔
        (system.pendingScopes = [] →
          SameInterests system.servicesRead.serviceTriggers system.pages.serviceTriggers)) ∧
      (SameIndex system.reloadScopes.sockets (indexInterests system.pages.socketTriggers) ↔
        (system.pendingScopes = [] →
          SameInterests system.socketsRead.socketTriggers system.pages.socketTriggers)) := by
    rw [IndexSystem.reloadScopes]
    by_cases none : system.pendingScopes = []
    · rw [none, List.isEmpty_nil, if_pos rfl, read.services, read.sockets, sameIndex_triggers,
        sameIndex_triggers]
      simp
    · rw [if_neg (by simpa using none)]
      exact ⟨iff_of_true (fun _ _ => Iff.rfl) fun empty => absurd empty none,
        iff_of_true (fun _ _ => Iff.rfl) fun empty => absurd empty none⟩
  constructor
  · rintro ⟨transcendence, inverse, services, sockets⟩
    rw [flowIndexes, pages] at transcendence inverse
    rw [pages] at services sockets
    exact ⟨sameIndex_facets.mp transcendence, sameIndex_facets.mp inverse,
      triggers.1.mp services, triggers.2.mp sockets⟩
  · rintro ⟨transcendence, inverse, services, sockets⟩
    refine ⟨?_, ?_, ?_, ?_⟩
    · rw [flowIndexes, pages]
      exact sameIndex_facets.mpr transcendence
    · rw [flowIndexes, pages]
      exact sameIndex_facets.mpr inverse
    · rw [pages]
      exact triggers.1.mpr services
    · rw [pages]
      exact triggers.2.mpr sockets

/-- A reload leaves the indexes current exactly if it changes no interest that has been
read and is not read again. -/
theorem Read.endsCurrent_iff (read : system.Read) (step : IndexStep) :
    ChangesNoRead system step ↔ EndsCurrent system step := by
  cases step with
  | reload files =>
      have collected := read.reloadUnitsCollection files
      obtain ⟨flowRead, servicesRead, socketsRead⟩ :=
        reloadUnitsCollection_read system files
      have same : system.KeepsInterests (system.reloadUnitsCollection files) ↔
          (system.reloadUnitsCollection files).KeepsInterests
            (system.reloadUnitsCollection files) := by
        constructor
        · rintro ⟨transcendence, inverse, services, sockets⟩
          exact ⟨flowRead ▸ transcendence, flowRead ▸ inverse, servicesRead ▸ services,
            socketsRead ▸ sockets⟩
        · rintro ⟨transcendence, inverse, services, sockets⟩
          exact ⟨flowRead ▸ transcendence, flowRead ▸ inverse, servicesRead ▸ services,
            socketsRead ▸ sockets⟩
      exact same.trans collected.reloadScopes_current_iff.symm
  | evaluateServices => exact Iff.rfl
  | evaluateSockets => exact Iff.rfl
  | desire scope => exact Iff.rfl
  | abandon scope => exact Iff.rfl
  | reloadStatic => exact Iff.rfl

end IndexSystem

/-- The reloads of a run all leave the indexes current exactly if none of them changes an
interest that has been read and is not read again. -/
theorem reloads_current_iff (pages : IndexedPages) (steps : List IndexStep) :
    Along IndexSystem.step EndsCurrent (.boot pages) steps ↔
      Along IndexSystem.step ChangesNoRead (.boot pages) steps := by
  have keeps : ∀ (system : IndexSystem) (step : IndexStep),
      system.Read → (system.step step).Read := fun _ step read => read.step step
  apply along_congr keeps
  · exact fun system step read => (read.endsCurrent_iff step).symm
  · exact IndexSystem.boot_read pages

/-! ## A facet that is added -/

/-- A unit file in which a facet follows another one. -/
def readerFiles : UnitFiles where
  page scope :=
    if scope = "static" then some ⟨AList.insert "app" [readerFacet] ∅, ∅, ∅⟩ else none
  failed := false

/-- A facet that a reload adds is not listed. -/
theorem not_reloads_current_reader :
    ¬ ∀ (pages : IndexedPages) (steps : List IndexStep),
      Along IndexSystem.step EndsCurrent (.boot pages) steps := by
  intro current
  have reloaded : ((IndexSystem.boot (AList.insert "static" ⟨∅, ∅, ∅⟩ ∅)).step
      .reloadStatic |>.reloadUnits readerFiles).Current :=
    (current _ [.reloadStatic, .reload readerFiles]).2.1
  have listed := (reloaded.transcendence "app:db" "app:reader").mpr (by decide +kernel)
  exact absurd listed (by decide +kernel)

end Rind
