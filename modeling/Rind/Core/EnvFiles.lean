import Mathlib.Data.List.AList
import Mathlib.Data.List.DropRight
import Mathlib.Data.String.Basic
import Rind.Data.Expansion
import Rind.Data.Text

/-!
# Environment files

A file of variables may include others.  Reading it comes to an end unless a file that it includes
includes itself, under the same path, and gives each variable the value that is assigned to it last.
-/

namespace Rind.EnvFiles

open Fuel

/-! ## Paths -/

/-- A piece of a path that names nothing. -/
def isTrivial (piece : String) : Bool := piece = "" || piece = "."

/-- The pieces before the last one that names something. -/
def cut (pieces : List String) : Option (List String) :=
  match pieces.rdropWhile isTrivial with
  | [] => none
  | named => some (named.dropLast.rdropWhile isTrivial)

/-- `Path::parent`. -/
def parent (path : String) : Option String :=
  match Text.split '/' path with
  | "" :: first :: rest => (cut (first :: rest)).map fun dirs => "/" ++ "/".intercalate dirs
  | "." :: rest =>
      some (match cut rest with
        | none => ""
        | some dirs => "/".intercalate ("." :: dirs))
  | pieces => (cut pieces).map "/".intercalate

/-- `Path::join`. -/
def join (dir file : String) : String :=
  if Text.startsWith file "/" then file
  else if dir = "" || Text.endsWith dir "/" then dir ++ file
  else dir ++ "/" ++ file

/-! ## The source's reader -/

/-- The files that can be read as text. A path with a length beyond the system's limit is that of none,
and a path without a parent is that of a directory, or empty. -/
structure FileSystem where
  read : String → Option String
  bounded : ∀ path, 4096 ≤ path.utf8ByteSize → read path = none
  rooted : ∀ path, parent path = none → read path = none

/-- A file that can be read has a directory, against which its inclusions are resolved. -/
theorem FileSystem.parent_isSome (fs : FileSystem) {path content : String}
    (found : fs.read path = some content) : (parent path).isSome := by
  rw [Option.isSome_iff_ne_none]
  intro orphan
  rw [fs.rooted path orphan] at found
  cases found

/-- What a line of an environment file asks for. -/
inductive EnvLine where
  | skip
  | include (file : String)
  | assign (key value : String)
  deriving DecidableEq, Repr

/-- The branches for a line. -/
def envLine (raw : String) : EnvLine :=
  let line := Text.trim raw
  if line = "" || Text.startsWith line "#" then .skip
  else if Text.startsWith line "include" || Text.startsWith line "source" then
    match Text.splitOnce ' ' line with
    | some (_, file) => .include file
    | none => .skip
  else
    match Text.splitOnce '=' line with
    | some (key, value) => .assign (Text.trim key) (Text.trim value)
    | none => .skip

/-- The path of an included file. -/
def included (path file : String) : String := join ((parent path).getD "") file

abbrev Env : Type := AList fun _ : String => String

/-- `extend`: the other map's entries replace those of their keys. -/
def extend (out other : Env) : Env := other ∪ out

/-- One turn of the loop over the lines. -/
def readEnvLine (readFile : String → Option Env) (path : String) (out : Env) (raw : String) :
    Option Env :=
  match envLine raw with
  | .skip => some out
  | .include file => (readFile (included path file)).map (extend out)
  | .assign key value => some (out.insert key value)

namespace FileSystem

variable (fs : FileSystem)

/-- The variables of a file and of those it includes. The recursion has no other limit than the
stack, so that the result is none as long as the fuel is not enough. -/
def readEnvFile : Nat → String → Option Env
  | 0, _ => none
  | fuel + 1, path =>
      match fs.read path with
      | none => some ∅
      | some content => (Text.lines content).foldlM (readEnvLine (readEnvFile fuel) path) ∅

/-! ## Assignments with inclusions in place -/

/-- What a line of a file stands for. -/
def linePart (path raw : String) : Option ((String × String) ⊕ String) :=
  match envLine raw with
  | .skip => none
  | .include file => some (.inr (included path file))
  | .assign key value => some (.inl (key, value))

/-- Environment files as documents: assignments, and inclusions of other files. -/
def documents : Documents String (String × String) where
  parts path := ((fs.read path).map Text.lines).getD [] |>.filterMap (linePart path)

/-- One file includes another one. -/
abbrev Includes (path other : String) : Prop := fs.documents.Refers path other

/-- The value that is assigned to a variable last. -/
def lastValue (assignments : List (String × String)) (key : String) : Option String :=
  (assignments.filter fun assignment => assignment.1 = key).getLast?.map Prod.snd

/-- An environment has the last values of some assignments. -/
def Written (env : Env) (assignments : List (String × String)) : Prop :=
  ∀ key, env.lookup key = lastValue assignments key

variable {fs}

theorem lastValue_append (first second : List (String × String)) (key : String) :
    lastValue (first ++ second) key = (lastValue second key).or (lastValue first key) := by
  rw [lastValue, lastValue, lastValue, List.filter_append, List.getLast?_append]
  cases (second.filter fun assignment => assignment.1 = key).getLast? <;> rfl

theorem Written.assign {out : Env} {before : List (String × String)} (written : Written out before)
    (key value : String) : Written (out.insert key value) (before ++ [(key, value)]) := by
  intro name
  rw [lastValue_append, ← written name]
  by_cases same : name = key
  · rw [same, AList.lookup_insert]
    simp [lastValue]
  · rw [AList.lookup_insert_ne same]
    simp [lastValue, Ne.symm same]

theorem Written.extend {out other : Env} {before own : List (String × String)}
    (written : Written out before) (others : Written other own) :
    Written (EnvFiles.extend out other) (before ++ own) := by
  intro name
  rw [lastValue_append, ← written name, ← others name, EnvFiles.extend]
  by_cases listed : name ∈ other
  · obtain ⟨value, found⟩ := Option.isSome_iff_exists.mp (AList.lookup_isSome.mpr listed)
    rw [AList.lookup_union_left listed, found, Option.some_or]
  · rw [AList.lookup_union_right listed, AList.lookup_eq_none.mpr listed, Option.none_or]

/-- The loop over the lines writes what they stand for, if the recursive calls do. -/
theorem foldlM_lines {readFile : String → Option Env}
    {expand : String → Option (List (String × String))}
    (same : ∀ path, Option.Rel Written (readFile path) (expand path)) (path : String)
    (lines : List String) {out : Env} {before : List (String × String)} (written : Written out before) :
    Option.Rel Written (lines.foldlM (readEnvLine readFile path) out)
      ((Documents.expandParts expand (lines.filterMap (linePart path))).map (before ++ ·)) := by
  induction lines generalizing out before with
  | nil => exact .some (by simpa using written)
  | cons raw rest ih =>
      rw [List.foldlM_cons, readEnvLine]
      cases asks : envLine raw with
      | skip =>
          rw [List.filterMap_cons_none (by rw [linePart, asks])]
          exact ih written
      | assign key value =>
          rw [List.filterMap_cons_some (by rw [linePart, asks]), Documents.expandParts, Option.map_map]
          have later := ih (written.assign key value)
          simpa [Function.comp_def] using later
      | «include» file =>
          rw [List.filterMap_cons_some (by rw [linePart, asks]), Documents.expandParts]
          have read := same (included path file)
          dsimp only
          generalize readFile (included path file) = got at read ⊢
          generalize expand (included path file) = expanded at read ⊢
          cases read with
          | none => exact .none
          | some others =>
              have later := ih (written.extend others)
              simpa [Function.comp_def] using later

theorem parts_documents (path : String) : fs.documents.parts path =
    (((fs.read path).map Text.lines).getD []).filterMap (linePart path) := rfl

/-- With the same fuel, a file is read if it has an expansion, and then its variables have the
last values in it. -/
theorem readEnvFile_expand (fuel : Nat) (path : String) :
    Option.Rel Written (fs.readEnvFile fuel path) (fs.documents.expand fuel path) := by
  induction fuel generalizing path with
  | zero => exact .none
  | succ fuel ih =>
      have nothing : Written ∅ [] := fun _ => rfl
      rw [readEnvFile, Documents.expand, parts_documents]
      cases fs.read path with
      | none => exact .some nothing
      | some content => simpa using foldlM_lines ih path (Text.lines content) nothing

theorem answers_readEnvFile {path : String} {env : Env} (read : Answers (fs.readEnvFile · path) env) :
    ∃ assignments, Answers (fs.documents.expand · path) assignments ∧ Written env assignments := by
  obtain ⟨fuel, found⟩ := read
  have same := fs.readEnvFile_expand fuel path
  rw [show fs.readEnvFile fuel path = some env from found] at same
  generalize expanded : fs.documents.expand fuel path = result at same
  cases same with
  | some written => exact ⟨_, ⟨fuel, expanded⟩, written⟩

theorem answers_expand {path : String} {assignments : List (String × String)}
    (expands : Answers (fs.documents.expand · path) assignments) :
    ∃ env, Answers (fs.readEnvFile · path) env := by
  obtain ⟨fuel, expanded⟩ := expands
  have same := fs.readEnvFile_expand fuel path
  rw [show fs.documents.expand fuel path = some assignments from expanded] at same
  generalize found : fs.readEnvFile fuel path = result at same
  cases same with
  | some written => exact ⟨_, fuel, found⟩

/-! ## The end of the recursion -/

theorem length_le_utf8ByteSize (path : String) : path.length ≤ path.utf8ByteSize := by
  rw [← String.length_toList, ← path.ofList_toList, String.utf8ByteSize_ofList,
    String.toList_ofList]
  induction path.toList with
  | nil => exact Nat.zero_le _
  | cons c rest ih => exact Nat.add_le_add ih c.utf8Size_pos

/-- There are finitely many paths that can be read. -/
theorem finite_readable : {path | fs.documents.parts path ≠ []}.Finite := by
  have chars : Finite Char := by
    apply Finite.of_injective fun c : Char => (⟨c.toNat, c.val.toNat_lt⟩ : Fin UInt32.size)
    intro first second same
    exact Char.toNat_inj.mp (congrArg Fin.val same)
  have texts : {path : String | path.length < 4096}.Finite :=
    (List.finite_length_lt Char 4096).preimage fun _ _ _ _ same => String.toList_injective same
  apply texts.subset
  intro path held
  by_contra long
  apply held
  have unread : fs.read path = none :=
    fs.bounded path ((Nat.not_lt.mp long).trans (length_le_utf8ByteSize path))
  rw [parts_documents, unread]
  rfl

/-- Reading a file comes to an end unless it is one, or includes one, directly or through others,
that includes itself under the same path. -/
theorem readEnvFile_ends_iff (fs : FileSystem) (path : String) :
    (∃ env, Answers (fs.readEnvFile · path) env) ↔ ¬ Dependencies.Stuck fs.Includes path := by
  rw [← Documents.expands_iff_not_stuck fs.finite_readable]
  constructor
  · rintro ⟨env, read⟩
    obtain ⟨assignments, expands, -⟩ := answers_readEnvFile read
    exact ⟨assignments, expands⟩
  · rintro ⟨assignments, expands⟩
    exact answers_expand expands

/-! ## Names of variables -/

theorem trim_isPrefix (text : String) :
    (Text.trim text).toList <+: text.toList.dropWhile Text.isWhitespace := by
  rw [Text.trim, String.toList_ofList, ← List.reverse_suffix, List.reverse_reverse]
  exact List.dropWhile_suffix _

theorem head?_trim {text : String} {c : Char} (first : (Text.trim text).toList.head? = some c) :
    Text.isWhitespace c = false := by
  obtain ⟨rest, whole⟩ := trim_isPrefix text
  apply Text.head?_dropWhile
  rw [← whole, List.head?_append, first]
  rfl

theorem startsWith_iff {text start : String} :
    Text.startsWith text start = true ↔ start.toList <+: text.toList :=
  List.isPrefixOf_iff_prefix

/-- The trimmed part of a trimmed line before a separator begins with nothing that the line does
not begin with. -/
theorem isPrefix_of_trim {raw before after : String} {separator : Char}
    (split : Text.splitOnce separator (Text.trim raw) = some (before, after)) :
    (Text.trim before).toList <+: (Text.trim raw).toList := by
  rw [Text.splitOnce] at split
  split at split
  · cases split
  · obtain ⟨rfl, -⟩ := Prod.mk.inj (Option.some.inj split)
    apply (trim_isPrefix _).trans
    rw [String.toList_ofList]
    cases line : (Text.trim raw).toList with
    | nil => exact List.nil_prefix
    | cons c rest =>
        have first : Text.isWhitespace c = false := head?_trim (by rw [line]; rfl)
        rw [List.takeWhile_cons]
        split
        · rw [List.dropWhile_cons_of_neg (by simp [first]), ← List.takeWhile_cons_of_pos ‹_›]
          exact List.takeWhile_prefix _
        · exact List.nil_prefix

/-- The names that a variable of an environment file may have: none that would be read as an
inclusion, or as a comment. -/
structure ReadableKey (key : String) : Prop where
  trimmed : Text.trim key = key
  unsigned : '=' ∉ key.toList
  begins : ∀ start ∈ ["#", "include", "source"], Text.startsWith key start = false

theorem readableKey_of_assign {raw key value : String} (asks : envLine raw = .assign key value) :
    ReadableKey key := by
  rw [envLine] at asks
  split at asks
  · cases asks
  · rename_i noComment
    split at asks
    · split at asks <;> cases asks
    · rename_i noInclusion
      split at asks
      · rename_i before after split
        cases asks
        have free : '=' ∉ before.toList := by
          have := Text.notMem_splitOnce '=' (Text.trim raw)
          rwa [split] at this
        have starts {start : String} (begins : Text.startsWith (Text.trim before) start = true) :
            Text.startsWith (Text.trim raw) start = true :=
          startsWith_iff.mpr ((startsWith_iff.mp begins).trans (isPrefix_of_trim split))
        refine ⟨Text.trim_trim before, ?_, ?_⟩
        · intro listed
          have inside := (trim_isPrefix before).subset listed
          exact free ((List.dropWhile_suffix _).subset inside)
        · intro start listed
          rw [Bool.eq_false_iff]
          intro begins
          have begins := starts begins
          simp only [List.mem_cons, List.not_mem_nil, or_false] at listed
          rcases listed with rfl | rfl | rfl
          · exact noComment (by rw [begins, Bool.or_true])
          · exact noInclusion (by rw [begins, Bool.true_or])
          · exact noInclusion (by rw [begins, Bool.or_true])
      · cases asks

theorem readableKey_of_part {path : String} {assignment : String × String}
    (listed : .inl assignment ∈ fs.documents.parts path) : ReadableKey assignment.1 := by
  rw [parts_documents] at listed
  obtain ⟨raw, -, part⟩ := List.mem_filterMap.mp listed
  rw [linePart] at part
  split at part
  · cases part
  · cases part
  · rename_i asks
    cases part
    exact readableKey_of_assign asks

/-- What is read of a file is, for each variable, the last value that is assigned to it in the file,
with the inclusions in place; and there is no variable with a name that begins like an inclusion or a
comment. -/
theorem readEnvFile_reads (fs : FileSystem) (path : String) (env : Env)
    (read : Answers (fs.readEnvFile · path) env) :
    (∃ assignments, Answers (fs.documents.expand · path) assignments ∧
      ∀ key, env.lookup key = lastValue assignments key) ∧ ∀ key ∈ env, ReadableKey key := by
  obtain ⟨assignments, ⟨fuel, expanded⟩, written⟩ := answers_readEnvFile read
  refine ⟨⟨assignments, ⟨fuel, expanded⟩, written⟩, ?_⟩
  intro key listed
  obtain ⟨value, found⟩ := Option.isSome_iff_exists.mp (AList.lookup_isSome.mpr listed)
  rw [written key, lastValue] at found
  obtain ⟨⟨name, last⟩, given, -⟩ := Option.map_eq_some_iff.mp found
  obtain ⟨inside, same⟩ := List.mem_filter.mp (List.mem_of_getLast? given)
  have readable : ReadableKey name := Documents.forall_mem_expand
    (fun _ _ part => readableKey_of_part part) expanded (name, last) inside
  exact of_decide_eq_true same ▸ readable

end FileSystem

/-! ## An example -/

/-- A file with an assignment before an inclusion and one after it, each replacing another one. -/
def sampleFiles : FileSystem where
  read path :=
    if path = "/etc/.env" then some "A=1\nB=1\ninclude more.env\nA=3\nsources=4\n"
    else if path = "/etc/more.env" then some "A=2\nB = 2\n"
    else none
  bounded path long := by
    have short : "/etc/.env".utf8ByteSize < 4096 ∧ "/etc/more.env".utf8ByteSize < 4096 := by decide
    split_ifs with first second
    · exact absurd (first ▸ long) (Nat.not_le.mpr short.1)
    · exact absurd (second ▸ long) (Nat.not_le.mpr short.2)
    · rfl
  rooted path orphan := by
    split_ifs with first second
    · exact absurd (first ▸ orphan) (by decide)
    · exact absurd (second ▸ orphan) (by decide)
    · rfl

theorem readEnvFile_reads_sampleFiles :
    let env : Env := ((∅ : Env).insert "B" "2").insert "A" "3"
    (∃ assignments, Answers (sampleFiles.documents.expand · "/etc/.env") assignments ∧
      ∀ key, env.lookup key = FileSystem.lastValue assignments key) ∧
        ∀ key ∈ env, FileSystem.ReadableKey key :=
  FileSystem.readEnvFile_reads sampleFiles "/etc/.env" _
    ⟨2, Option.map_injective (fun _ _ => AList.ext) (by decide +kernel)⟩

end Rind.EnvFiles
