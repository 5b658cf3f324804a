import Mathlib.Data.List.AList
import Rind.Core.Error
import Rind.Prog.Core

/-!
# Loading directories of unit files

A directory is loaded file by file, under the lock of the table that says which loader
files of an extension have.  A loader may register another one, for which it takes that
lock itself.  A thread that takes a lock which it has never returns.
-/

namespace Rind

open Prog

/-! ## Directories -/

/-- What is read of a path: how it is shown, and its last component. -/
structure UnitPath where
  display : String
  name : List UInt8
  deriving DecidableEq, Repr

/-- An entry of a directory: one that cannot be had, a file with its content, or a
directory with its entries.  What cannot be read has an error instead. -/
inductive DirEntry where
  | failed (error : String)
  | file (path : UnitPath) (content : Except String String)
  | dir (path : UnitPath) (entries : Except String (List DirEntry))

namespace UnitPath

/-- The parts of a file name before and behind its last dot. -/
def splitAtDot (name : List UInt8) : Option (List UInt8 × List UInt8) :=
  let after := (name.reverse.takeWhile (· ≠ 0x2E)).reverse
  if after.length = name.length then none
  else some (name.take (name.length - after.length - 1), after)

/-- `to_str` -/
def toStr (name : List UInt8) : Option String := String.fromUTF8? ⟨name.toArray⟩

/-- `extension`, where the name starts with a dot only if it has another one. -/
def extension (path : UnitPath) : Option (List UInt8) :=
  match splitAtDot path.name with
  | none | some ([], _) => none
  | some (_, after) => some after

/-- `file_stem` -/
def fileStem (path : UnitPath) : List UInt8 :=
  match splitAtDot path.name with
  | none | some ([], _) => path.name
  | some (before, _) => before

/-- The extension that says how a file is loaded. -/
def loaderName (path : UnitPath) : Ustr := (path.extension.bind toStr).getD "toml"

/-- The group of the definitions of a file. -/
def group (path : UnitPath) : Ustr := (toStr path.fileStem).getD "unknown"

/-- The error of a file that its loader refuses. -/
def parseError (path : UnitPath) (error : CoreError) : CoreError :=
  .custom ("failed to parse unit file " ++ path.display ++ ": " ++ error.text)

end UnitPath

/-! ## Loaders -/

/-- What the loaders do, by what the table knows them as.  They work on the metadata and the
context, and may then ask for a loader to be registered. -/
structure Loaders (κ σ : Type) where
  load : κ → String → Ustr → UnitPath → Prog σ CoreError (Option (Ustr × κ))
  trigger : Option (String → Ustr → Prog σ CoreError Unit)

/-- The table of loaders, whether this thread has its lock, and what is loaded into. -/
structure Loading (κ σ : Type) where
  loaders : AList fun _ : Ustr => κ
  locked : Bool
  state : σ

section Loading

variable {κ σ ε α : Type}

/-- Run a program on a part of the state. -/
def onState (body : Prog σ ε α) : Prog (Loading κ σ) ε α := fun loading =>
  (body loading.state).map fun result => (result.1, { loading with state := result.2 })

def mapErr {ε' : Type} (change : ε → ε') (body : Prog σ ε α) : Prog σ ε' α := fun state =>
  (body state).map fun result => (result.1.mapError change, result.2)

/-- Run a program with the lock of the table, which is given back however it ends. -/
def withLoaders (body : Prog (Loading κ σ) ε α) : Prog (Loading κ σ) ε α := fun loading =>
  if loading.locked then none
  else (body { loading with locked := true }).map fun result =>
    (result.1, { result.2 with locked := false })

def registerLoader (type : Ustr) (loader : κ) : Prog (Loading κ σ) ε Unit :=
  withLoaders (change fun loading =>
    { loading with loaders := loading.loaders.insert type loader })

variable (loaders : Loaders κ σ)

/-- A loader, up to the loader that it registers. -/
def Loaders.run (loader : κ) (content : String) (group : Ustr) (unitsDir : UnitPath) :
    Prog (Loading κ σ) CoreError Unit := do
  match ← onState (loaders.load loader content group unitsDir) with
  | none => pure ()
  | some (type, other) => registerLoader type other

def loadFile (unitsDir path : UnitPath) (content : Except String String) :
    Prog (Loading κ σ) CoreError Unit := do
  match content with
  | .error error =>
      fail (.custom ("failed to read unit file " ++ path.display ++ ": " ++ error))
  | .ok content =>
      match ← read fun loading => loading.loaders.lookup path.loaderName with
      | none => pure ()
      | some loader =>
          mapErr path.parseError (loaders.run loader content path.group unitsDir)
          match loaders.trigger with
          | none => pure ()
          | some trigger => onState (trigger content path.group)

mutual

def loadInDir (unitsDir : UnitPath) : Except String (List DirEntry) →
    Prog (Loading κ σ) CoreError Unit
  | .error error =>
      fail (.custom ("failed to read units dir " ++ unitsDir.display ++ ": " ++ error))
  | .ok entries => withLoaders (loadDirEntries unitsDir entries)

def loadDirEntries (unitsDir : UnitPath) : List DirEntry → Prog (Loading κ σ) CoreError Unit
  | [] => pure ()
  | entry :: rest => do
      loadDirEntry unitsDir entry
      loadDirEntries unitsDir rest

def loadDirEntry (unitsDir : UnitPath) : DirEntry → Prog (Loading κ σ) CoreError Unit
  | .failed error => fail (.custom ("dir entry error: " ++ error))
  | .dir path entries => loadInDir path entries
  | .file path content => loadFile loaders unitsDir path content

end

/-! ## What blocks a thread -/

/-- A loader that is run with the lock does not return: it does not end itself, or it
registers another one, or else the trigger does not end. -/
def Loaders.Blocks (loader : κ) (content : String) (group : Ustr) (unitsDir : UnitPath)
    (state : σ) : Prop :=
  match loaders.load loader content group unitsDir state with
  | none | some (.ok (some _), _) => True
  | some (.error _, _) => False
  | some (.ok none, state') => ∃ trigger, loaders.trigger = some trigger ∧
      trigger content group state' = none

/-- An entry that is not gone past: a directory that can be read, or a file whose loader
does not return. -/
def DirEntry.Blocks (unitsDir : UnitPath) (loading : Loading κ σ) : DirEntry → Prop
  | .failed _ | .file _ (.error _) | .dir _ (.error _) => False
  | .dir _ (.ok _) => True
  | .file path (.ok content) => ∃ loader, loading.loaders.lookup path.loaderName = some loader ∧
      loaders.Blocks loader content path.group unitsDir loading.state

/-- The entries of the beginning of a directory are files, and all of them load. -/
inductive LoadsFiles (unitsDir : UnitPath) :
    List DirEntry → Loading κ σ → Loading κ σ → Prop where
  | nil (loading : Loading κ σ) : LoadsFiles unitsDir [] loading loading
  | cons {path : UnitPath} {content : Except String String} {rest : List DirEntry}
      {loading middle final : Loading κ σ}
      (ran : loadFile loaders unitsDir path content loading = some (.ok (), middle))
      (others : LoadsFiles unitsDir rest middle final) :
      LoadsFiles unitsDir (.file path content :: rest) loading final

variable {loaders} {loading final : Loading κ σ}

theorem run_onState (body : Prog σ ε α) (loading : Loading κ σ) :
    onState body loading =
      (body loading.state).map fun result => (result.1, { loading with state := result.2 }) := rfl

theorem withLoaders_held (body : Prog (Loading κ σ) ε α) (held : loading.locked = true) :
    withLoaders body loading = none := if_pos held

theorem withLoaders_free (body : Prog (Loading κ σ) ε α) (free : loading.locked = false) :
    withLoaders body loading = (body { loading with locked := true }).map fun result =>
      (result.1, { result.2 with locked := false }) := by
  rw [withLoaders, free]
  rfl

/-- What a file with a loader does under the lock. -/
theorem loadFile_held (held : loading.locked = true) {unitsDir path : UnitPath} {content : String}
    {loader : κ} (found : loading.loaders.lookup path.loaderName = some loader) :
    loadFile loaders unitsDir path (.ok content) loading =
      match loaders.load loader content path.group unitsDir loading.state with
      | none | some (.ok (some _), _) => none
      | some (.error error, state) =>
          some (.error (path.parseError error), { loading with state })
      | some (.ok none, state) =>
          match loaders.trigger with
          | none => some (.ok (), { loading with state })
          | some trigger => onState (trigger content path.group) { loading with state } := by
  have ran : loadFile loaders unitsDir path (.ok content) loading =
      (do mapErr path.parseError (loaders.run loader content path.group unitsDir)
          match loaders.trigger with
          | none => pure ()
          | some trigger => onState (trigger content path.group) : Prog _ _ _) loading := by
    rw [loadFile, run_read_bind, found]
  rw [ran, run_bind, mapErr, Loaders.run, run_bind, run_onState]
  cases loaders.load loader content path.group unitsDir loading.state with
  | none => rfl
  | some result =>
      obtain ⟨outcome, state⟩ := result
      cases outcome with
      | error error => rfl
      | ok registered =>
          cases registered with
          | none =>
              cases loaders.trigger <;> rfl
          | some registration =>
              have blocked : (registerLoader registration.1 registration.2 :
                  Prog (Loading κ σ) CoreError Unit) { loading with state } = none :=
                withLoaders_held _ held
              simp only [Option.map_some, blocked, Option.map_none]

theorem loadFile_unread {unitsDir path : UnitPath} {error : String} :
    loadFile loaders unitsDir path (.error error) loading =
      some (.error (.custom ("failed to read unit file " ++ path.display ++ ": " ++ error)),
        loading) := rfl

theorem loadFile_unknown {unitsDir path : UnitPath} {content : String}
    (unknown : loading.loaders.lookup path.loaderName = none) :
    loadFile loaders unitsDir path (.ok content) loading = some (.ok (), loading) := by
  rw [loadFile, run_read_bind, unknown]
  rfl

/-- Under the lock a file is not gone past exactly where its loader blocks. -/
theorem loadFile_eq_none (held : loading.locked = true) {unitsDir path : UnitPath}
    {content : Except String String} :
    loadFile loaders unitsDir path content loading = none ↔
      (DirEntry.file path content).Blocks loaders unitsDir loading := by
  cases content with
  | error error =>
      rw [loadFile_unread]
      exact iff_of_false (Option.some_ne_none _) id
  | ok content =>
      cases found : loading.loaders.lookup path.loaderName with
      | none =>
          rw [loadFile_unknown found, DirEntry.Blocks, found]
          exact iff_of_false (Option.some_ne_none _) (by simp)
      | some loader =>
          rw [loadFile_held held found, DirEntry.Blocks, found]
          simp only [Option.some.injEq, exists_eq_left', Loaders.Blocks]
          split
          · simp
          · simp
          · simp
          · cases loaders.trigger with
            | none => simp
            | some trigger => simp [run_onState]

/-- A file leaves the lock and the table as they are. -/
theorem loadFile_kept (held : loading.locked = true) {unitsDir path : UnitPath}
    {content : Except String String} {result : Except CoreError Unit}
    (ran : loadFile loaders unitsDir path content loading = some (result, final)) :
    final.locked = true ∧ final.loaders = loading.loaders := by
  cases content with
  | error error =>
      rw [loadFile_unread] at ran
      cases ran
      exact ⟨held, rfl⟩
  | ok content =>
      cases found : loading.loaders.lookup path.loaderName with
      | none =>
          rw [loadFile_unknown found] at ran
          cases ran
          exact ⟨held, rfl⟩
      | some loader =>
          rw [loadFile_held held found] at ran
          split at ran
          · cases ran
          · cases ran
          · cases ran
            exact ⟨held, rfl⟩
          · split at ran
            · cases ran
              exact ⟨held, rfl⟩
            · obtain ⟨inner, -, same⟩ := Option.map_eq_some_iff.mp ran
              cases same
              exact ⟨held, rfl⟩

/-! ## When a directory is loaded -/

theorem loadDirEntries_cons (unitsDir : UnitPath) (entry : DirEntry) (rest : List DirEntry) :
    loadDirEntries loaders unitsDir (entry :: rest) loading =
      (loadDirEntry loaders unitsDir entry >>= fun _ =>
        loadDirEntries loaders unitsDir rest) loading := by
  rw [loadDirEntries]

/-- An entry is not gone past exactly where it blocks. -/
theorem loadDirEntry_eq_none (held : loading.locked = true) {unitsDir : UnitPath}
    {entry : DirEntry} :
    loadDirEntry loaders unitsDir entry loading = none ↔
      entry.Blocks loaders unitsDir loading := by
  cases entry with
  | failed error =>
      rw [loadDirEntry]
      exact iff_of_false (Option.some_ne_none _) id
  | file path content =>
      rw [loadDirEntry]
      exact loadFile_eq_none held
  | dir path entries =>
      rw [loadDirEntry]
      cases entries with
      | error error =>
          rw [loadInDir]
          exact iff_of_false (Option.some_ne_none _) id
      | ok entries =>
          rw [loadInDir]
          exact iff_of_true (withLoaders_held _ held) trivial

/-- An entry after which the loop goes on is a file, or blocks. -/
theorem loadDirEntry_ok (held : loading.locked = true) {unitsDir : UnitPath} {entry : DirEntry}
    (ran : loadDirEntry loaders unitsDir entry loading = some (.ok (), final)) :
    ∃ path content, entry = .file path content ∧
      loadFile loaders unitsDir path content loading = some (.ok (), final) := by
  cases entry with
  | failed error =>
      rw [loadDirEntry, run_fail] at ran
      cases ran
  | file path content =>
      rw [loadDirEntry] at ran
      exact ⟨path, content, rfl, ran⟩
  | dir path entries =>
      rw [loadDirEntry] at ran
      cases entries with
      | error error =>
          rw [loadInDir, run_fail] at ran
          cases ran
      | ok entries =>
          rw [loadInDir, withLoaders_held _ held] at ran
          cases ran

/-- A directory that has been gone through has only files, and all of them have loaded. -/
theorem loadsFiles_of_ok {unitsDir : UnitPath} {entries : List DirEntry}
    (held : loading.locked = true)
    (ran : loadDirEntries loaders unitsDir entries loading = some (.ok (), final)) :
    LoadsFiles loaders unitsDir entries loading final := by
  induction entries generalizing loading with
  | nil =>
      rw [loadDirEntries] at ran
      cases ran
      exact .nil _
  | cons entry rest ih =>
      rw [loadDirEntries_cons] at ran
      obtain ⟨err, -, same⟩ | ⟨_, middle, first, others⟩ := run_bind_cases ran
      · cases same
      · obtain ⟨path, content, rfl, loaded⟩ := loadDirEntry_ok held first
        exact .cons loaded (ih (loadFile_kept held loaded).1 others)

/-- No entry that the loop comes to blocks it. -/
def GoesPast (loaders : Loaders κ σ) (unitsDir : UnitPath) (entries : List DirEntry)
    (loading : Loading κ σ) : Prop :=
  ∀ before entry after middle, entries = before ++ entry :: after →
    LoadsFiles loaders unitsDir before loading middle → ¬ entry.Blocks loaders unitsDir middle

/-- The first entry does not block, and where it is a file that loads, nor do the others. -/
theorem goesPast_cons {unitsDir : UnitPath} {first : DirEntry} {rest : List DirEntry} :
    GoesPast loaders unitsDir (first :: rest) loading ↔
      ¬ first.Blocks loaders unitsDir loading ∧
        ∀ path content middle, first = .file path content →
          loadFile loaders unitsDir path content loading = some (.ok (), middle) →
          GoesPast loaders unitsDir rest middle := by
  constructor
  · intro past
    refine ⟨past [] first rest loading rfl (.nil loading), ?_⟩
    rintro path content middle rfl ran before entry after last rfl loads
    exact past (_ :: before) entry after last rfl (.cons ran loads)
  · rintro ⟨goes, others⟩ before entry after middle split loads
    cases loads with
    | nil =>
        cases split
        exact goes
    | cons ran loads =>
        cases split
        exact others _ _ _ rfl ran _ entry after middle rfl loads

/-- Under the lock, the loop over a directory ends exactly where it goes past all entries
that it comes to. -/
theorem loadDirEntries_returns {unitsDir : UnitPath} {entries : List DirEntry}
    (held : loading.locked = true) :
    (loadDirEntries loaders unitsDir entries loading).isSome ↔
      GoesPast loaders unitsDir entries loading := by
  induction entries generalizing loading with
  | nil =>
      rw [loadDirEntries]
      apply iff_of_true rfl
      intro before entry after middle split
      exact absurd split (by simp)
  | cons first rest ih =>
      rw [loadDirEntries_cons, run_bind, goesPast_cons, ← loadDirEntry_eq_none held]
      cases ran : loadDirEntry loaders unitsDir first loading with
      | none => simp
      | some result =>
          obtain ⟨outcome, middle⟩ := result
          cases outcome with
          | error error =>
              apply iff_of_true rfl
              refine ⟨Option.some_ne_none _, ?_⟩
              rintro path content after rfl loaded
              rw [loadDirEntry, loaded] at ran
              cases ran
          | ok _ =>
              obtain ⟨path, content, rfl, loaded⟩ := loadDirEntry_ok held ran
              rw [ih (loadFile_kept held loaded).1]
              constructor
              · intro past
                refine ⟨Option.some_ne_none _, ?_⟩
                rintro path' content' middle' same loaded'
                cases same
                rw [loaded] at loaded'
                cases loaded'
                exact past
              · intro both
                exact both.2 path content middle rfl loaded

/-- A directory is loaded, or refused, exactly where it cannot be read, or the lock is free
and no entry that the loop comes to blocks it: a directory that can be read always does. -/
theorem loadInDir_returns_iff (loaders : Loaders κ σ) (unitsDir : UnitPath)
    (entries : Except String (List DirEntry)) (loading : Loading κ σ) :
    (loadInDir loaders unitsDir entries loading).isSome ↔
      ∀ list, entries = .ok list → loading.locked = false ∧
        GoesPast loaders unitsDir list { loading with locked := true } := by
  cases entries with
  | error error =>
      rw [loadInDir]
      apply iff_of_true rfl
      intro list read
      cases read
  | ok list =>
      rw [loadInDir]
      simp only [Except.ok.injEq, forall_eq']
      cases held : loading.locked with
      | true =>
          rw [withLoaders_held _ held]
          simp
      | false =>
          rw [withLoaders_free _ held, Option.isSome_map, loadDirEntries_returns rfl]
          simp

end Loading

/-! ## A directory in a directory -/

/-- A loader that takes every file as it is. -/
def anyLoader : Loaders Unit Unit where
  load _ _ _ _ := pure none
  trigger := none

/-- A table with one loader, and no lock. -/
def freeLoading : Loading Unit Unit := ⟨AList.singleton "toml" (), false, ()⟩

def unitsPath (text : String) : UnitPath := ⟨text, text.toUTF8.data.toList⟩

/-- An empty directory in the directory of units is never gone past. -/
theorem not_returns_nested :
    ¬ (loadInDir anyLoader (unitsPath "units") (.ok [.dir (unitsPath "net") (.ok [])])
      freeLoading).isSome := by
  decide

end Rind
