import Rind.Core.Persistence
import Rind.Prog.Runs
import Mathlib.Logic.Function.Basic

/-!
# Durable snapshots

A snapshot is written to a temporary file, which is synchronised and takes the place of the last one.
What is not synchronised yet may be lost when the power is cut: changes of the names in a directory,
one by one, and what is in a file.  Whenever saves fail or the power is cut, a snapshot is loaded as
a whole, and none that is older than the last one that was saved.
-/

namespace Rind.Durability

/-! ## The disk -/

/-- The files that the two names in a directory stand for: the path of the snapshots, and the one
with the extension for temporary files. -/
structure Names where
  path : Option Nat
  tmp : Option Nat
  deriving DecidableEq, Repr

inductive NameChange where
  | create (file : Nat)
  | rename (file : Nat)
  deriving DecidableEq, Repr

def Names.change (names : Names) : NameChange → Names
  | .create file => { names with tmp := some file }
  | .rename file => ⟨some file, none⟩

/-- The changes that a mask keeps. -/
def kept : List NameChange → List Bool → List NameChange
  | change :: changes, keep :: mask =>
      if keep then change :: kept changes mask else kept changes mask
  | _, _ => []

/-- A directory, with the names that are on the disk and the changes that are not. A directory
may have been made without being in its own directory on the disk. -/
structure Directory where
  made : Bool
  linked : Bool
  lasting : Names
  changes : List NameChange

namespace Directory

/-- What the names are as long as the power is on. -/
def names (dir : Directory) : Names := dir.changes.foldl Names.change dir.lasting

/-- A change that is not on the disk yet. -/
def push (dir : Directory) (change : NameChange) : Directory :=
  { dir with changes := dir.changes ++ [change] }

/-- What is left of a directory: some of the changes, or nothing of it. -/
def cut (dir : Directory) (keeps : List Bool) (stays : Bool) : Directory :=
  if dir.linked || (dir.made && stays) then
    { dir with
      linked := true
      lasting := (kept dir.changes keeps).foldl Names.change dir.lasting
      changes := [] }
  else ⟨false, false, ⟨none, none⟩, []⟩

end Directory

/-- The bytes of a file, and whether they are on the disk. -/
structure File where
  bytes : List UInt8
  firm : Bool

/-- Snapshots have their paths in directories of their own. -/
structure Disk (α : Type) where
  dirs : α → Directory
  files : Nat → File
  next : Nat

/-- What a cut of the power leaves: changes of names, directories, and bytes of files. -/
structure Cut (α : Type) where
  keeps : α → List Bool
  stays : α → Bool
  bytes : Nat → List UInt8

namespace Disk

variable {α : Type}

/-- The disk of a system that has saved nothing yet, where some directories are there. -/
def start (linked : α → Bool) : Disk α :=
  ⟨fun path => ⟨linked path, linked path, ⟨none, none⟩, []⟩, fun _ => ⟨[], false⟩, 0⟩

def cut (disk : Disk α) (power : Cut α) : Disk α where
  dirs path := (disk.dirs path).cut (power.keeps path) (power.stays path)
  files file := ⟨if (disk.files file).firm then (disk.files file).bytes else power.bytes file, true⟩
  next := disk.next

end Disk

/-! ## The source's calls -/

/-- The system calls of `write_snapshot`; a failed write may have written some of the bytes. -/
inductive Call where
  | createDirAll
  | create
  | write (byte : UInt8)
  | syncAll
  | rename
  | syncParentDir
  deriving DecidableEq, Repr

section Calls

variable {α : Type} [DecidableEq α]

def Disk.setDir (disk : Disk α) (path : α) (dir : Directory) : Disk α :=
  { disk with dirs := Function.update disk.dirs path dir }

def Disk.setFile (disk : Disk α) (file : Nat) (content : File) : Disk α :=
  { disk with files := Function.update disk.files file content }

/-- The effect of a call for the snapshots of a path. An open file is the one that the temporary
name stands for. -/
def Disk.call (path : α) (disk : Disk α) : Call → Disk α
  | .createDirAll => disk.setDir path { disk.dirs path with made := true }
  | .create =>
      match (disk.dirs path).names.tmp with
      | some file => disk.setFile file ⟨[], false⟩
      | none =>
          { (disk.setDir path ((disk.dirs path).push (.create disk.next))).setFile
              disk.next ⟨[], false⟩ with next := disk.next + 1 }
  | .write byte =>
      match (disk.dirs path).names.tmp with
      | some file => disk.setFile file ⟨(disk.files file).bytes ++ [byte], false⟩
      | none => disk
  | .syncAll =>
      match (disk.dirs path).names.tmp with
      | some file => disk.setFile file ⟨(disk.files file).bytes, true⟩
      | none => disk
  | .rename =>
      match (disk.dirs path).names.tmp with
      | some file => disk.setDir path ((disk.dirs path).push (.rename file))
      | none => disk
  | .syncParentDir =>
      let dir := disk.dirs path
      disk.setDir path { dir with lasting := dir.names, changes := [] }

variable [Bincode StateSnapshot] [Crc32]

/-- The calls of `write_snapshot`. -/
def writeSnapshot (snapshot : StateSnapshot) : List Call :=
  [.createDirAll, .create] ++ (encodeSnapshot snapshot).map .write ++
    [.syncAll, .rename, .syncParentDir]

/-- `StatePersistence::load` -/
def Disk.load (disk : Disk α) (path : α) : Except PersistenceError StateSnapshot :=
  match (disk.dirs path).names.path with
  | none => .ok ∅
  | some file => decodeSnapshot (disk.files file).bytes

/-- A snapshot is saved with all the calls, or with those before one that fails or before the
power is cut. -/
inductive Event (α : Type) where
  | save (path : α) (snapshot : StateSnapshot) (stop : Option Nat)
  | cut (power : Cut α)

def Disk.step (disk : Disk α) : Event α → Disk α
  | .save path snapshot none => Runs.run (Disk.call path) disk (writeSnapshot snapshot)
  | .save path snapshot (some calls) =>
      Runs.run (Disk.call path) disk ((writeSnapshot snapshot).take calls)
  | .cut power => disk.cut power

/-! ## What may be loaded -/

/-- The snapshots that may be loaded from a path after an event: a complete save leaves only its own, and
the lack of any where the directory may be lost. -/
def note (linked : α → Bool) (values : α → List StateSnapshot) : Event α → α → List StateSnapshot
  | .save path snapshot none =>
      Function.update values path (if linked path then [snapshot] else [∅, snapshot])
  | .save path snapshot (some _) => Function.update values path (values path ++ [snapshot])
  | .cut _ => values

end Calls

/-! ## Names after a cut -/

section Names

variable {names : Names} {changes : List NameChange} {file : Nat}

theorem path_foldl (found : (changes.foldl Names.change names).path = some file) :
    names.path = some file ∨ .rename file ∈ changes := by
  induction changes generalizing names with
  | nil => exact .inl found
  | cons change rest ih =>
      rcases ih found with first | later
      · cases change with
        | create other => exact .inl first
        | rename other =>
            cases first
            exact .inr List.mem_cons_self
      · exact .inr (List.mem_cons_of_mem _ later)

theorem tmp_foldl (found : (changes.foldl Names.change names).tmp = some file) :
    names.tmp = some file ∨ .create file ∈ changes := by
  induction changes generalizing names with
  | nil => exact .inl found
  | cons change rest ih =>
      rcases ih found with first | later
      · cases change with
        | create other =>
            cases first
            exact .inr List.mem_cons_self
        | rename other => cases first
      · exact .inr (List.mem_cons_of_mem _ later)

/-- No change takes the path away. -/
theorem path_of_foldl (missing : (changes.foldl Names.change names).path = none) :
    names.path = none := by
  induction changes generalizing names with
  | nil => exact missing
  | cons change rest ih =>
      have first := ih missing
      cases change with
      | create other => exact first
      | rename other => cases first

end Names

theorem kept_sublist (changes : List NameChange) (mask : List Bool) :
    (kept changes mask).Sublist changes := by
  induction changes generalizing mask with
  | nil => exact List.Sublist.slnil
  | cons change rest ih =>
      cases mask with
      | nil => exact List.nil_sublist _
      | cons keep mask =>
          rw [kept]
          split
          · exact (ih mask).cons_cons change
          · exact (ih mask).cons change

/-! ## Recent snapshots -/

section Recent

variable {α : Type}

/-- A snapshot has been saved to a path, if only in part, after the last one that was saved there
completely; or there has been none, or a directory that can be lost. -/
def Recent (linked : α → Bool) (events : List (Event α)) (path : α) (snapshot : StateSnapshot) : Prop :=
  (∃ before stop after, events = before ++ .save path snapshot stop :: after ∧
      ∀ later, .save path later none ∉ after) ∨
    snapshot = ∅ ∧ (linked path = true → ∀ saved, .save path saved none ∉ events)

/-- What was recent stays so with an event that completes no save of the path. -/
theorem Recent.later {linked : α → Bool} {events : List (Event α)} {path : α}
    {snapshot : StateSnapshot} (recent : Recent linked events path snapshot) {event : Event α}
    (incomplete : ∀ saved, event ≠ .save path saved none) :
    Recent linked (events ++ [event]) path snapshot := by
  rcases recent with ⟨before, stop, after, rfl, newest⟩ | ⟨rfl, never⟩
  · refine .inl ⟨before, stop, after ++ [event], by simp, ?_⟩
    intro later listed
    rcases List.mem_append.mp listed with old | new
    · exact newest later old
    · exact incomplete later (List.mem_singleton.mp new).symm
  · refine .inr ⟨rfl, ?_⟩
    intro given saved listed
    rcases List.mem_append.mp listed with old | new
    · exact never given saved old
    · exact incomplete saved (List.mem_singleton.mp new).symm

theorem recent_last {linked : α → Bool} (events : List (Event α)) (path : α)
    (snapshot : StateSnapshot) (stop : Option Nat) :
    Recent linked (events ++ [.save path snapshot stop]) path snapshot :=
  .inl ⟨events, stop, [], rfl, fun _ => List.not_mem_nil⟩

variable [DecidableEq α]

/-- The snapshots that may be loaded are recent. -/
theorem recent_of_note {linked : α → Bool} {events : List (Event α)} {path : α}
    {snapshot : StateSnapshot}
    (listed : snapshot ∈ Runs.run (note linked) (fun _ => [∅]) events path) :
    Recent linked events path snapshot := by
  induction events using List.reverseRecOn with
  | nil => exact .inr ⟨List.mem_singleton.mp listed, fun _ _ => List.not_mem_nil⟩
  | append_singleton events event ih =>
      rw [Runs.run_append, Runs.run_cons, Runs.run_nil] at listed
      cases event with
      | cut power => exact (ih listed).later nofun
      | save other saved stop =>
          by_cases same : path = other
          · subst same
            cases stop with
            | some calls =>
                rw [note, Function.update_self] at listed
                rcases List.mem_append.mp listed with old | new
                · exact (ih old).later nofun
                · cases List.mem_singleton.mp new
                  exact recent_last events path snapshot (some calls)
            | none =>
                rw [note, Function.update_self] at listed
                split at listed
                · cases List.mem_singleton.mp listed
                  exact recent_last events path snapshot none
                · rename_i loose
                  rcases List.mem_cons.mp listed with rfl | new
                  · exact .inr ⟨rfl, fun given => absurd given loose⟩
                  · cases List.mem_singleton.mp new
                    exact recent_last events path snapshot none
          · have apart : ∀ later, Event.save other saved stop ≠ .save path later none := by
              rintro later equal
              exact same (Event.save.inj equal).1.symm
            have old : snapshot ∈ Runs.run (note linked) (fun _ => [∅]) events path := by
              cases stop <;> rwa [note, Function.update_of_ne same] at listed
            exact (ih old).later apart

end Recent

/-! ## Invariants -/

namespace Directory

variable {dir : Directory} {file : Nat}

/-- A file that the path stands for, or may stand for after a cut. -/
def Placed (dir : Directory) (file : Nat) : Prop :=
  dir.lasting.path = some file ∨ .rename file ∈ dir.changes

/-- A file that one of the names stands for, or may stand for after a cut. -/
def Mentions (dir : Directory) (file : Nat) : Prop :=
  dir.Placed file ∨ dir.lasting.tmp = some file ∨ .create file ∈ dir.changes

/-- The temporary file is never that of the path, and is not where a snapshot has been placed. -/
structure Tidy (dir : Directory) : Prop where
  apart : ∀ (kept : List NameChange) (file : Nat), kept.Sublist dir.changes →
    (kept.foldl Names.change dir.lasting).tmp = some file →
    (kept.foldl Names.change dir.lasting).path ≠ some file
  unplaced : ∀ file, dir.names.tmp = some file → ¬ dir.Placed file

theorem placed_push {change : NameChange} :
    (dir.push change).Placed file ↔ dir.Placed file ∨ change = .rename file := by
  rw [Placed, Placed, push, List.mem_append, List.mem_singleton, or_assoc, eq_comm (a := change)]

theorem mentions_push {change : NameChange} : (dir.push change).Mentions file ↔
    dir.Mentions file ∨ change = .rename file ∨ change = .create file := by
  rw [Mentions, Mentions, placed_push, push, List.mem_append, List.mem_singleton,
    eq_comm (a := NameChange.create file)]
  tauto

theorem mentions_tmp {kept : List NameChange} (among : kept.Sublist dir.changes)
    (found : (kept.foldl Names.change dir.lasting).tmp = some file) : dir.Mentions file :=
  .inr ((tmp_foldl found).imp_right fun listed => among.subset listed)

theorem placed_path {kept : List NameChange} (among : kept.Sublist dir.changes)
    (found : (kept.foldl Names.change dir.lasting).path = some file) : dir.Placed file :=
  (path_foldl found).imp_right fun listed => among.subset listed

theorem Tidy.create (tidy : dir.Tidy) (fresh : ¬ dir.Mentions file) :
    (dir.push (.create file)).Tidy where
  apart := by
    intro kept other among found same
    obtain ⟨before, last, rfl, first, rest⟩ := List.sublist_append_iff.mp among
    rcases List.sublist_singleton.mp rest with rfl | rfl
    · rw [List.append_nil] at found same
      exact tidy.apart before other first found same
    · rw [List.foldl_append] at found same
      cases found
      exact fresh (.inl (placed_path first same))
  unplaced := by
    intro other found placed
    rw [names, push, List.foldl_append] at found
    cases found
    rcases placed with lasting | renamed
    · exact fresh (.inl (.inl lasting))
    · rcases List.mem_append.mp renamed with before | last
      · exact fresh (.inl (.inr before))
      · simp at last

theorem Tidy.rename (tidy : dir.Tidy) : (dir.push (.rename file)).Tidy where
  apart := by
    intro kept other among found same
    obtain ⟨before, last, rfl, first, rest⟩ := List.sublist_append_iff.mp among
    rcases List.sublist_singleton.mp rest with rfl | rfl
    · rw [List.append_nil] at found same
      exact tidy.apart before other first found same
    · rw [List.foldl_append] at found
      cases found
  unplaced := by
    intro other found
    rw [names, push, List.foldl_append] at found
    cases found

/-- A directory of which some of the changes have reached the disk, and no others are left. -/
theorem Tidy.settle (tidy : dir.Tidy) {kept : List NameChange} (among : kept.Sublist dir.changes)
    (made linked : Bool) :
    (Directory.mk made linked (kept.foldl Names.change dir.lasting) []).Tidy where
  apart := by
    intro none_ file nothing found
    cases List.sublist_nil.mp nothing
    exact tidy.apart kept file among found
  unplaced := by
    intro file found placed
    rcases placed with same | listed
    · exact tidy.apart kept file among found same
    · cases listed

/-- What the names of a directory stand for once some of the changes are on the disk. -/
theorem mentions_settle {kept : List NameChange} (among : kept.Sublist dir.changes)
    {made linked : Bool}
    (mentions : (Directory.mk made linked (kept.foldl Names.change dir.lasting) []).Mentions file) :
    dir.Mentions file := by
  rcases mentions with (path | listed) | tmp | listed
  · exact .inl (placed_path among path)
  · cases listed
  · exact mentions_tmp among tmp
  · cases listed

theorem placed_settle {kept : List NameChange} (among : kept.Sublist dir.changes)
    {made linked : Bool}
    (placed : (Directory.mk made linked (kept.foldl Names.change dir.lasting) []).Placed file) :
    dir.Placed file := by
  rcases placed with path | listed
  · exact placed_path among path
  · cases listed

theorem tidy_empty (made linked : Bool) : (Directory.mk made linked ⟨none, none⟩ []).Tidy := by
  refine ⟨?_, fun _ found => nomatch found⟩
  intro kept file among
  cases List.sublist_nil.mp among
  exact fun found => nomatch found

/-- What a cut leaves of a directory. -/
theorem cut_cases (dir : Directory) (keeps : List Bool) (stays : Bool) :
    dir.cut keeps stays =
        ⟨dir.made, true, (kept dir.changes keeps).foldl Names.change dir.lasting, []⟩ ∨
      dir.cut keeps stays = ⟨false, false, ⟨none, none⟩, []⟩ ∧ dir.linked = false := by
  rw [cut]
  cases linked : dir.linked with
  | true => exact .inl rfl
  | false =>
      split
      · exact .inl rfl
      · exact .inr ⟨rfl, rfl⟩

theorem Tidy.cut (tidy : dir.Tidy) {keeps : List Bool} {stays : Bool} :
    (dir.cut keeps stays).Tidy := by
  rcases cut_cases dir keeps stays with same | ⟨same, -⟩
  · exact same ▸ tidy.settle (kept_sublist _ _) _ _
  · exact same ▸ tidy_empty _ _

theorem missing_cut {keeps : List Bool} {stays : Bool}
    (nothing : (dir.cut keeps stays).linked = false ∨ (dir.cut keeps stays).lasting.path = none) :
    dir.linked = false ∨ dir.lasting.path = none := by
  rcases cut_cases dir keeps stays with same | ⟨-, loose⟩
  · rw [same] at nothing
    exact .inr (path_of_foldl (nothing.resolve_left nofun))
  · exact .inl loose

theorem mentions_cut {keeps : List Bool} {stays : Bool}
    (mentions : (dir.cut keeps stays).Mentions file) : dir.Mentions file := by
  rcases cut_cases dir keeps stays with same | ⟨same, -⟩
  · exact mentions_settle (kept_sublist _ _) (same ▸ mentions)
  · rw [same] at mentions
    simp [Mentions, Placed] at mentions

theorem placed_cut {keeps : List Bool} {stays : Bool} (placed : (dir.cut keeps stays).Placed file) :
    dir.Placed file := by
  rcases cut_cases dir keeps stays with same | ⟨same, -⟩
  · exact placed_settle (kept_sublist _ _) (same ▸ placed)
  · rw [same] at placed
    simp [Placed] at placed

/-- A directory that is on the disk stays there. -/
theorem linked_cut {keeps : List Bool} {stays : Bool} (linked : dir.linked = true) :
    (dir.cut keeps stays).linked = true := by
  rw [cut, linked]
  rfl

end Directory

section Writing

variable {α : Type} {path : α} {disk : Disk α}

/-- The temporary file of a path while a snapshot is written to it. -/
def Writing (disk : Disk α) (path : α) (content : File) : Prop :=
  ∃ file, (disk.dirs path).names.tmp = some file ∧ disk.files file = content

variable [DecidableEq α]

theorem writing_create : Writing (disk.call path .create) path ⟨[], false⟩ := by
  rw [Disk.call]
  split
  · rename_i file open_
    exact ⟨file, open_, Function.update_self ..⟩
  · refine ⟨disk.next, ?_, Function.update_self ..⟩
    rw [Disk.setDir, Disk.setFile]
    dsimp only
    rw [Function.update_self, Directory.names, Directory.push, List.foldl_append]
    rfl

theorem Writing.write {bytes : List UInt8} {firm : Bool} (writing : Writing disk path ⟨bytes, firm⟩)
    (byte : UInt8) : Writing (disk.call path (.write byte)) path ⟨bytes ++ [byte], false⟩ := by
  obtain ⟨file, open_, content⟩ := writing
  rw [Disk.call, open_]
  dsimp only
  rw [content]
  exact ⟨file, open_, Function.update_self ..⟩

theorem Writing.writes (bytes : List UInt8) {before : List UInt8}
    (writing : Writing disk path ⟨before, false⟩) :
    Writing (Runs.run (Disk.call path) disk (bytes.map .write)) path ⟨before ++ bytes, false⟩ := by
  induction bytes generalizing disk before with
  | nil => rwa [List.append_nil]
  | cons byte rest ih =>
      rw [List.map_cons, Runs.run_cons, ← List.singleton_append (l := rest), ← List.append_assoc]
      exact ih (writing.write byte)

theorem Writing.syncAll {bytes : List UInt8} {firm : Bool} (writing : Writing disk path ⟨bytes, firm⟩) :
    Writing (disk.call path .syncAll) path ⟨bytes, true⟩ := by
  obtain ⟨file, open_, content⟩ := writing
  rw [Disk.call, open_]
  dsimp only
  rw [content]
  exact ⟨file, open_, Function.update_self ..⟩

/-- Then the temporary file takes the place of the last one, also on the disk. -/
theorem Writing.placed {content : File} (writing : Writing disk path content) :
    let after := (disk.call path .rename).call path .syncParentDir
    ∃ file, (after.dirs path).lasting.path = some file ∧ (after.dirs path).changes = [] ∧
      after.files file = content := by
  obtain ⟨file, open_, held⟩ := writing
  rw [Disk.call, open_]
  refine ⟨file, ?_, ?_, held⟩
  · simp only [Disk.call, Disk.setDir, Function.update_self, Directory.names, Directory.push,
      List.foldl_append]
    rfl
  · simp only [Disk.call, Disk.setDir, Function.update_self]

/-- Directories are not linked by the calls. -/
theorem linked_call (call : Call) (other : α) :
    ((disk.call path call).dirs other).linked = (disk.dirs other).linked := by
  have kept {dir : Directory} (same : dir.linked = (disk.dirs path).linked) :
      (Function.update disk.dirs path dir other).linked = (disk.dirs other).linked := by
    by_cases own : other = path
    · rw [own, Function.update_self, same]
    · rw [Function.update_of_ne own]
  cases call with
  | createDirAll => exact kept rfl
  | syncParentDir => exact kept rfl
  | create =>
      rw [Disk.call]
      split
      · rfl
      · exact kept rfl
  | rename =>
      rw [Disk.call]
      split
      · exact kept rfl
      · rfl
  | _ =>
      rw [Disk.call]
      split <;> rfl

theorem linked_run (disk : Disk α) (path other : α) (calls : List Call) :
    ((Runs.run (Disk.call path) disk calls).dirs other).linked = (disk.dirs other).linked := by
  induction calls generalizing disk with
  | nil => rfl
  | cons call rest ih => rw [Runs.run_cons, ih, linked_call]

end Writing

section Sound

variable {α : Type} [Bincode StateSnapshot] [Crc32]

/-- What holds of a disk, where some snapshots may be loaded from each path. -/
structure Sound (disk : Disk α) (values : α → List StateSnapshot) : Prop where
  tidy : ∀ path, (disk.dirs path).Tidy
  known : ∀ path file, (disk.dirs path).Mentions file → file < disk.next
  own : ∀ path other file, (disk.dirs path).Mentions file → (disk.dirs other).Mentions file →
    path = other
  written : ∀ path file, (disk.dirs path).Placed file → (disk.files file).firm = true ∧
    ∃ snapshot ∈ values path, (disk.files file).bytes = encodeSnapshot snapshot
  missing : ∀ path, (disk.dirs path).linked = false ∨ (disk.dirs path).lasting.path = none →
    ∅ ∈ values path

variable {disk : Disk α} {values : α → List StateSnapshot}

theorem Sound.mono (sound : Sound disk values) {more : α → List StateSnapshot}
    (fewer : ∀ path, values path ⊆ more path) : Sound disk more :=
  { sound with
    written := by
      intro path file placed
      obtain ⟨firm, snapshot, listed, same⟩ := sound.written path file placed
      exact ⟨firm, snapshot, fewer path listed, same⟩
    missing := fun path nothing => fewer path (sound.missing path nothing) }

/-- A snapshot that may be loaded is loaded. -/
theorem Sound.load (sound : Sound disk values) (path : α) :
    ∃ snapshot ∈ values path, disk.load path = .ok snapshot := by
  rw [Disk.load]
  cases found : (disk.dirs path).names.path with
  | none => exact ⟨∅, sound.missing path (.inr (path_of_foldl found)), rfl⟩
  | some file =>
      obtain ⟨-, snapshot, listed, same⟩ :=
        sound.written path file (Directory.placed_path (List.Sublist.refl _) found)
      refine ⟨snapshot, listed, ?_⟩
      dsimp only
      rw [same, decodeSnapshot_encodeSnapshot]

theorem sound_start (linked : α → Bool) : Sound (.start linked) fun _ => [∅] where
  tidy _ := Directory.tidy_empty _ _
  known path file mentions := by simp [Disk.start, Directory.Mentions, Directory.Placed] at mentions
  own path other file mentions := by
    simp [Disk.start, Directory.Mentions, Directory.Placed] at mentions
  written path file placed := by simp [Disk.start, Directory.Placed] at placed
  missing _ _ := List.mem_singleton.mpr rfl

/-! ## Calls -/

variable {path : α}

/-- The temporary file holds no snapshot that may be loaded. -/
theorem Sound.tmp_unplaced (sound : Sound disk values) {file : Nat}
    (open_ : (disk.dirs path).names.tmp = some file) (other : α) :
    ¬ (disk.dirs other).Placed file := by
  intro placed
  have mentions : (disk.dirs path).Mentions file :=
    Directory.mentions_tmp (List.Sublist.refl _) open_
  have same := sound.own path other file mentions (.inl placed)
  subst same
  exact (sound.tidy path).unplaced file open_ placed

theorem Sound.setFile (sound : Sound disk values) {file : Nat} {content : File}
    (unplaced : ∀ other, ¬ (disk.dirs other).Placed file) :
    Sound (disk.setFile file content) values :=
  { sound with
    written := by
      intro path other placed
      have apart : other ≠ file := by
        rintro rfl
        exact unplaced path placed
      rw [Disk.setFile]
      dsimp only
      rw [Function.update_of_ne apart]
      exact sound.written path other placed }

theorem Sound.cut (sound : Sound disk values) (power : Cut α) : Sound (disk.cut power) values where
  tidy path := (sound.tidy path).cut
  known path file mentions :=
    sound.known path file (Directory.mentions_cut mentions)
  own path other file mentions mentions' :=
    sound.own path other file (Directory.mentions_cut mentions) (Directory.mentions_cut mentions')
  written path file placed := by
    obtain ⟨firm, snapshot, listed, same⟩ :=
      sound.written path file (Directory.placed_cut placed)
    refine ⟨rfl, snapshot, listed, ?_⟩
    rw [Disk.cut]
    dsimp only
    rw [if_pos firm, same]
  missing path nothing := sound.missing path (Directory.missing_cut nothing)

variable [DecidableEq α]

theorem Sound.setDir (sound : Sound disk values) {dir : Directory} (tidy : dir.Tidy)
    (known : ∀ file, dir.Mentions file → file < disk.next)
    (own : ∀ file, dir.Mentions file → ∀ other, (disk.dirs other).Mentions file → path = other)
    (written : ∀ file, dir.Placed file → (disk.files file).firm = true ∧
      ∃ snapshot ∈ values path, (disk.files file).bytes = encodeSnapshot snapshot)
    (missing : dir.linked = false ∨ dir.lasting.path = none → ∅ ∈ values path) :
    Sound (disk.setDir path dir) values where
  tidy := (Function.forall_update_iff _ fun _ (dir : Directory) => dir.Tidy).mpr
    ⟨tidy, fun other _ => sound.tidy other⟩
  known := (Function.forall_update_iff _ fun _ (dir : Directory) =>
      ∀ file, dir.Mentions file → file < disk.next).mpr
    ⟨known, fun other _ => sound.known other⟩
  own first second file mentions mentions' := by
    rw [Disk.setDir] at mentions mentions'
    dsimp only at mentions mentions'
    by_cases same : first = path
    · by_cases same' : second = path
      · exact same.trans same'.symm
      · rw [Function.update_of_ne same'] at mentions'
        rw [same, Function.update_self] at mentions
        exact same ▸ own file mentions second mentions'
    · rw [Function.update_of_ne same] at mentions
      by_cases same' : second = path
      · rw [same', Function.update_self] at mentions'
        exact same' ▸ (own file mentions' first mentions).symm
      · rw [Function.update_of_ne same'] at mentions'
        exact sound.own first second file mentions mentions'
  written := (Function.forall_update_iff _ fun other (dir : Directory) =>
      ∀ file, dir.Placed file → (disk.files file).firm = true ∧
        ∃ snapshot ∈ values other, (disk.files file).bytes = encodeSnapshot snapshot).mpr
    ⟨written, fun other _ => sound.written other⟩
  missing := (Function.forall_update_iff _ fun other (dir : Directory) =>
      dir.linked = false ∨ dir.lasting.path = none → ∅ ∈ values other).mpr
    ⟨missing, fun other _ => sound.missing other⟩

theorem Sound.createDirAll (sound : Sound disk values) :
    Sound (disk.call path .createDirAll) values :=
  sound.setDir ⟨(sound.tidy path).apart, (sound.tidy path).unplaced⟩ (sound.known path)
    (fun file mentions other mentions' => sound.own path other file mentions mentions')
    (sound.written path) (sound.missing path)

theorem Sound.create (sound : Sound disk values) : Sound (disk.call path .create) values := by
  rw [Disk.call]
  split
  · rename_i file open_
    exact sound.setFile (sound.tmp_unplaced open_)
  · have fresh {other : α} : ¬ (disk.dirs other).Mentions disk.next := fun mentions =>
      absurd (sound.known other disk.next mentions) (Nat.lt_irrefl _)
    have counted : Sound { disk with next := disk.next + 1 } values :=
      { sound with known := fun other file mentions =>
          Nat.lt_succ_of_lt (sound.known other file mentions) }
    have written : Sound (({ disk with next := disk.next + 1 } : Disk α).setFile disk.next
        ⟨[], false⟩) values :=
      counted.setFile fun other placed => fresh (.inl placed)
    have among {file : Nat} (mentions : ((disk.dirs path).push (.create disk.next)).Mentions file) :
        (disk.dirs path).Mentions file ∨ file = disk.next := by
      rcases Directory.mentions_push.mp mentions with before | renamed | created
      · exact .inl before
      · cases renamed
      · cases created
        exact .inr rfl
    have placed {file : Nat} (placed : ((disk.dirs path).push (.create disk.next)).Placed file) :
        (disk.dirs path).Placed file :=
      (Directory.placed_push.mp placed).resolve_right nofun
    refine written.setDir ((sound.tidy path).create fresh) ?_ ?_ ?_ (sound.missing path)
    · intro file mentions
      rcases among mentions with before | rfl
      · exact Nat.lt_succ_of_lt (sound.known path file before)
      · exact Nat.lt_succ_self _
    · intro file mentions other mentions'
      rcases among mentions with before | rfl
      · exact sound.own path other file before mentions'
      · exact absurd mentions' fresh
    · intro file placed'
      exact written.written path file (placed placed')

theorem Sound.write (sound : Sound disk values) (byte : UInt8) :
    Sound (disk.call path (.write byte)) values := by
  rw [Disk.call]
  split
  · rename_i file open_
    exact sound.setFile (sound.tmp_unplaced open_)
  · exact sound

theorem Sound.syncAll (sound : Sound disk values) : Sound (disk.call path .syncAll) values := by
  rw [Disk.call]
  split
  · rename_i file open_
    exact sound.setFile (sound.tmp_unplaced open_)
  · exact sound

/-- The path is given a file that holds one of its snapshots. -/
theorem Sound.rename (sound : Sound disk values) {snapshot : StateSnapshot}
    (writing : Writing disk path ⟨encodeSnapshot snapshot, true⟩) (listed : snapshot ∈ values path) :
    Sound (disk.call path .rename) values := by
  obtain ⟨file, open_, content⟩ := writing
  have mentioned : (disk.dirs path).Mentions file :=
    Directory.mentions_tmp (List.Sublist.refl _) open_
  have among {other : Nat} (mentions : ((disk.dirs path).push (.rename file)).Mentions other) :
      (disk.dirs path).Mentions other := by
    rcases Directory.mentions_push.mp mentions with before | renamed | created
    · exact before
    · cases renamed
      exact mentioned
    · cases created
  rw [Disk.call, open_]
  refine sound.setDir (sound.tidy path).rename ?_ ?_ ?_ (sound.missing path)
  · exact fun other mentions => sound.known path other (among mentions)
  · exact fun other mentions third => sound.own path third other (among mentions)
  · intro other placed
    rcases Directory.placed_push.mp placed with before | renamed
    · exact sound.written path other before
    · cases renamed
      rw [content]
      exact ⟨rfl, snapshot, listed, rfl⟩

theorem Sound.syncParentDir (sound : Sound disk values) :
    Sound (disk.call path .syncParentDir) values := by
  have all := List.Sublist.refl (disk.dirs path).changes
  refine sound.setDir ((sound.tidy path).settle all _ _) ?_ ?_ ?_ ?_
  · exact fun file mentions => sound.known path file (Directory.mentions_settle all mentions)
  · exact fun file mentions other => sound.own path other file (Directory.mentions_settle all mentions)
  · exact fun file placed => sound.written path file (Directory.placed_settle all placed)
  · exact fun nothing => sound.missing path (nothing.imp_right path_of_foldl)

/-! ## Saves -/

/-- A call may be made: a file takes the place of the last one when it holds a whole snapshot. -/
def Allowed (values : α → List StateSnapshot) (path : α) (disk : Disk α) (call : Call) : Prop :=
  call = .rename → ∃ snapshot ∈ values path, Writing disk path ⟨encodeSnapshot snapshot, true⟩

theorem Sound.call (sound : Sound disk values) {call : Call} (allowed : Allowed values path disk call) :
    Sound (disk.call path call) values := by
  cases call with
  | createDirAll => exact sound.createDirAll
  | create => exact sound.create
  | write byte => exact sound.write byte
  | syncAll => exact sound.syncAll
  | rename =>
      obtain ⟨snapshot, listed, writing⟩ := allowed rfl
      exact sound.rename writing listed
  | syncParentDir => exact sound.syncParentDir

/-- The calls up to the one that synchronises the temporary file. -/
def writeFile (snapshot : StateSnapshot) : List Call :=
  [.createDirAll, .create] ++ (encodeSnapshot snapshot).map .write ++ [.syncAll]

theorem writeSnapshot_eq (snapshot : StateSnapshot) :
    writeSnapshot snapshot = writeFile snapshot ++ [.rename, .syncParentDir] := by
  simp [writeSnapshot, writeFile]

/-- Before the temporary file takes the place of the last one, it holds the whole snapshot. -/
theorem writing_snapshot (disk : Disk α) (path : α) (snapshot : StateSnapshot) :
    Writing (Runs.run (Disk.call path) disk (writeFile snapshot)) path
      ⟨encodeSnapshot snapshot, true⟩ := by
  rw [writeFile, Runs.run_append, Runs.run_append]
  exact (writing_create.writes (encodeSnapshot snapshot)).syncAll

/-- The calls of a save are allowed where its snapshot may be loaded. -/
theorem allowed_writeSnapshot {snapshot : StateSnapshot} (listed : snapshot ∈ values path) :
    Runs.Along (Disk.call path) (Allowed values path) disk (writeSnapshot snapshot) := by
  rw [writeSnapshot_eq, Runs.Along.append]
  constructor
  · have others : ∀ call ∈ writeFile snapshot, call ≠ .rename := by
      rintro call listed rfl
      simp [writeFile] at listed
    have keeps : ∀ (disk : Disk α) (call : Call), True → call ≠ .rename → True :=
      fun _ _ _ _ => trivial
    refine (Runs.Along.of_forall others).mono keeps ?_ trivial
    exact fun _ _ _ other renames => absurd renames other
  · exact ⟨fun _ => ⟨snapshot, listed, writing_snapshot disk path snapshot⟩, nofun, trivial⟩

/-- A save that stops anywhere. -/
theorem Sound.stopped (sound : Sound disk values) {snapshot : StateSnapshot}
    (listed : snapshot ∈ values path) (calls : Nat) :
    Sound (Runs.run (Disk.call path) disk ((writeSnapshot snapshot).take calls)) values := by
  have keeps : ∀ (disk : Disk α) (call : Call), Sound disk values → Allowed values path disk call →
      Sound (disk.call path call) values :=
    fun _ _ sound allowed => sound.call allowed
  exact (allowed_writeSnapshot listed).visits keeps sound (List.take_prefix _ _)

/-- After a complete save the path stands for a file with the snapshot, and nothing is left to be
synchronised. -/
theorem placed_writeSnapshot (disk : Disk α) (path : α) (snapshot : StateSnapshot) :
    let after := Runs.run (Disk.call path) disk (writeSnapshot snapshot)
    ∃ file, (after.dirs path).lasting.path = some file ∧ (after.dirs path).changes = [] ∧
      after.files file = ⟨encodeSnapshot snapshot, true⟩ := by
  rw [writeSnapshot_eq, Runs.run_append]
  exact (writing_snapshot disk path snapshot).placed

/-- A snapshot that has been placed on the disk is the only one that may be loaded. -/
theorem Sound.settle (sound : Sound disk values) {file : Nat} {snapshot : StateSnapshot}
    (lasting : (disk.dirs path).lasting.path = some file) (nothing : (disk.dirs path).changes = [])
    (content : disk.files file = ⟨encodeSnapshot snapshot, true⟩) {settled : List StateSnapshot}
    (saved : snapshot ∈ settled) (unlinked : (disk.dirs path).linked = false → ∅ ∈ settled) :
    Sound disk (Function.update values path settled) where
  tidy := sound.tidy
  known := sound.known
  own := sound.own
  written := by
    apply (Function.forall_update_iff values fun other snapshots =>
      ∀ file, (disk.dirs other).Placed file → (disk.files file).firm = true ∧
        ∃ snapshot ∈ snapshots, (disk.files file).bytes = encodeSnapshot snapshot).mpr
    refine ⟨?_, fun other _ => sound.written other⟩
    intro other placed
    rcases placed with path | renamed
    · cases lasting.symm.trans path
      rw [content]
      exact ⟨rfl, snapshot, saved, rfl⟩
    · rw [nothing] at renamed
      cases renamed
  missing := by
    apply (Function.forall_update_iff values fun other snapshots =>
      (disk.dirs other).linked = false ∨ (disk.dirs other).lasting.path = none → ∅ ∈ snapshots).mpr
    refine ⟨?_, fun other _ => sound.missing other⟩
    rintro (loose | absent)
    · exact unlinked loose
    · rw [lasting] at absent
      cases absent

/-- A complete save leaves its own snapshot only. -/
theorem Sound.saved (sound : Sound disk values) {snapshot : StateSnapshot}
    (listed : snapshot ∈ values path) {settled : List StateSnapshot} (saved : snapshot ∈ settled)
    (unlinked : (disk.dirs path).linked = false → ∅ ∈ settled) :
    Sound (Runs.run (Disk.call path) disk (writeSnapshot snapshot))
      (Function.update values path settled) := by
  have whole := sound.stopped listed (writeSnapshot snapshot).length
  rw [List.take_length] at whole
  obtain ⟨file, lasting, nothing, content⟩ := placed_writeSnapshot disk path snapshot
  refine whole.settle lasting nothing content saved ?_
  rwa [linked_run]

/-! ## Runs -/

/-- An event keeps what may be loaded, where the given directories are on the disk. -/
theorem Sound.step (sound : Sound disk values) {linked : α → Bool}
    (there : ∀ path, linked path = true → (disk.dirs path).linked = true) (event : Event α) :
    Sound (disk.step event) (note linked values event) := by
  cases event with
  | cut power => exact sound.cut power
  | save path snapshot stop =>
      have added : Sound disk (Function.update values path (values path ++ [snapshot])) := by
        apply sound.mono
        exact (Function.forall_update_iff values fun other snapshots =>
          values other ⊆ snapshots).mpr
          ⟨List.subset_append_left _ _, fun _ _ => List.Subset.refl _⟩
      have listed : snapshot ∈ Function.update values path (values path ++ [snapshot]) path := by
        rw [Function.update_self]
        exact List.mem_concat_self
      cases stop with
      | some calls => exact added.stopped listed calls
      | none =>
          rw [note, ← Function.update_idem (a := path) (values path ++ [snapshot]) _ values]
          apply added.saved listed
          · split <;> simp
          · intro loose
            cases given : linked path with
            | true => exact absurd (there path given) (by simp [loose])
            | false => simp

/-- An event leaves the directories on the disk there. -/
theorem linked_step {path : α} (linked : (disk.dirs path).linked = true) (event : Event α) :
    ((disk.step event).dirs path).linked = true := by
  cases event with
  | cut power => exact Directory.linked_cut linked
  | save other snapshot stop => cases stop <;> exact (linked_run ..).trans linked

theorem Sound.run (sound : Sound disk values) {linked : α → Bool}
    (there : ∀ path, linked path = true → (disk.dirs path).linked = true) (events : List (Event α)) :
    Sound (Runs.run Disk.step disk events) (Runs.run (note linked) values events) := by
  induction events generalizing disk values with
  | nil => exact sound
  | cons event rest ih =>
      exact ih (sound.step there event) fun path given => linked_step (there path given) event

end Sound

end Rind.Durability
