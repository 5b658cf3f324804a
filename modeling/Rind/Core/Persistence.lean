import Rind.Data.Codec
import Rind.Data.Maps
import Rind.Data.Text
import Mathlib.Data.List.Dedup

/-!
# Persisted snapshots

A snapshot maps names to encoded entries.  It is written to a file behind a
header with a magic number, a version and a checksum.  Files are written as a
whole, by renaming a finished temporary file.
-/

namespace Rind

/-- `bincode_next::serde` for the values of a type. -/
class Bincode (α : Type) where
  codec : Codec α

/-- `crc32fast::hash` -/
class Crc32 where
  hash : List UInt8 → UInt32

structure StateEntry where
  data : List UInt8
  deriving DecidableEq, Repr

abbrev StateSnapshot : Type := AList fun _ : String => List StateEntry

structure PersistenceError where
  text : String
  deriving DecidableEq, Repr

/-! ## The format -/

section Format

/-- The bytes of `RIND`. -/
def magic : List UInt8 := [0x52, 0x49, 0x4E, 0x44]

def version : Nat := 1

variable [Bincode StateSnapshot] [Crc32]

def encodeSnapshot (snapshot : StateSnapshot) : List UInt8 :=
  let payload := Bincode.codec.write snapshot
  magic ++ (Codec.littleEndian 2 version ++
    (Codec.littleEndian 4 (Crc32.hash payload).toNat ++ payload))

def decodeSnapshot (content : List UInt8) : Except PersistenceError StateSnapshot :=
  if content.length < 10 then .error ⟨"decode failed: snapshot too small"⟩
  else if content.take 4 ≠ magic then .error ⟨"decode failed: invalid snapshot magic"⟩
  else
    let found := Codec.fromLittleEndian ((content.drop 4).take 2)
    if found ≠ version then
      .error ⟨"decode failed: unsupported snapshot version " ++ toString found⟩
    else
      let expected := Codec.fromLittleEndian ((content.drop 6).take 4)
      let payload := content.drop 10
      if expected ≠ (Crc32.hash payload).toNat then
        .error ⟨"decode failed: snapshot checksum mismatch"⟩
      else
        match Bincode.codec.decode payload with
        | some snapshot => .ok snapshot
        | none => .error ⟨"decode failed"⟩

/-- A written snapshot is read back. -/
theorem decodeSnapshot_encodeSnapshot (snapshot : StateSnapshot) :
    decodeSnapshot (encodeSnapshot snapshot) = .ok snapshot := by
  have checksum : Codec.fromLittleEndian (Codec.littleEndian 4
      (Crc32.hash (Bincode.codec.write snapshot)).toNat) =
      (Crc32.hash (Bincode.codec.write snapshot)).toNat :=
    Codec.fromLittleEndian_littleEndian (UInt32.toNat_lt _)
  have current : Codec.fromLittleEndian (Codec.littleEndian 2 version) = version :=
    Codec.fromLittleEndian_littleEndian (by decide)
  have afterMagic : (encodeSnapshot snapshot).drop 4 = Codec.littleEndian 2 version ++
      (Codec.littleEndian 4 (Crc32.hash (Bincode.codec.write snapshot)).toNat ++
        Bincode.codec.write snapshot) := List.drop_left' rfl
  have afterVersion : (encodeSnapshot snapshot).drop 6 =
      Codec.littleEndian 4 (Crc32.hash (Bincode.codec.write snapshot)).toNat ++
        Bincode.codec.write snapshot := by
    rw [← List.drop_drop (i := 2) (j := 4), afterMagic, List.drop_left' (by simp)]
  have payload : (encodeSnapshot snapshot).drop 10 = Bincode.codec.write snapshot := by
    rw [← List.drop_drop (i := 4) (j := 6), afterVersion, List.drop_left' (by simp)]
  have long : ¬ (encodeSnapshot snapshot).length < 10 := by
    simp only [encodeSnapshot, magic, List.length_append, List.length_cons, List.length_nil,
      Codec.length_littleEndian]
    omega
  have header : (encodeSnapshot snapshot).take 4 = magic := List.take_left' rfl
  simp only [decodeSnapshot, if_neg long, header, afterMagic, afterVersion, payload,
    List.take_left' (Codec.length_littleEndian _ _), current, checksum, Codec.decode_write]
  simp

end Format

/-! ## Files -/

/-- The segments of an absolute path. -/
abbrev FilePath : Type := List String

abbrev Files : Type := AList fun _ : FilePath => List UInt8

/-- `Path::join`, as the operating system resolves the result. -/
def joinPath (root : FilePath) (path : String) : FilePath :=
  let start := if (Text.stripPrefix "/" path).isSome then [] else root
  (Text.split '/' path).foldl
    (fun resolved segment =>
      if segment = "" ∨ segment = "." then resolved
      else if segment = ".." then resolved.dropLast
      else resolved ++ [segment])
    start

/-- The directory below `root` that leads to a file. -/
def childDirectory : (root path : FilePath) → Option String
  | [], child :: _ :: _ => some child
  | [], _ => none
  | segment :: root, first :: rest => if segment = first then childDirectory root rest else none
  | _ :: _, [] => none

/-- `read_dir`: the names of the directories below `root`. -/
def readDirectories (root : FilePath) (files : Files) : List String :=
  (files.keys.filterMap (childDirectory root)).dedup

/-- `remove_dir_all` -/
def removeDirAll (directory : FilePath) (files : Files) : Files :=
  Maps.retain (fun path => !directory.isPrefixOf path) files

/-- A name for a directory: a single segment other than `.` and `..`. -/
def PlainName (name : String) : Prop :=
  name ≠ "" ∧ name ≠ "." ∧ name ≠ ".." ∧ '/' ∉ name.toList

instance (name : String) : Decidable (PlainName name) := by
  unfold PlainName
  infer_instance

theorem joinPath_plain {root : FilePath} {name : String} (plain : PlainName name) :
    joinPath root name = root ++ [name] := by
  obtain ⟨nonempty, notDot, notDotDot, noSlash⟩ := plain
  have segments : Text.split '/' name = [name] := by
    rw [Text.split, List.splitOn_eq_singleton noSlash, List.map_singleton, String.ofList_toList]
  have relative : (Text.stripPrefix "/" name).isSome = false := by
    rw [Option.isSome_eq_false_iff, Option.isNone_iff_eq_none]
    cases found : Text.stripPrefix "/" name with
    | none => rfl
    | some rest =>
        rw [Text.stripPrefix_eq_some] at found
        exact absurd (found ▸ by simp) noSlash
  simp [joinPath, segments, relative, nonempty, notDot, notDotDot]

theorem childDirectory_append (root : FilePath) (child : String) (rest : FilePath) :
    childDirectory root (root ++ child :: rest) = if rest = [] then none else some child := by
  induction root with
  | nil => cases rest <;> rfl
  | cons segment root ih => rw [List.cons_append, childDirectory, if_pos rfl, ih]

theorem mem_readDirectories {root : FilePath} {files : Files} {name : String} :
    name ∈ readDirectories root files ↔ ∃ path ∈ files, childDirectory root path = some name := by
  rw [readDirectories, List.mem_dedup, List.mem_filterMap]
  rfl

section Snapshots

variable [Bincode StateSnapshot] [Crc32]

/-- `StatePersistence::load` -/
def loadSnapshot (files : Files) (path : FilePath) : Except PersistenceError StateSnapshot :=
  match files.lookup path with
  | none => .ok ∅
  | some content => decodeSnapshot content

/-- `StatePersistence::save_sync` -/
def saveSync (path : FilePath) (snapshot : StateSnapshot) (files : Files) : Files :=
  files.insert path (encodeSnapshot snapshot)

end Snapshots

/-! ## The libraries -/

namespace Standard

/-- The map of a snapshot, as `bincode` writes it in its standard configuration. -/
scoped instance : Bincode StateSnapshot where
  codec := Codec.string.map (Codec.byte.list.view StateEntry.mk StateEntry.data fun _ => rfl).list

/-- One step of the checksum for each bit of a byte. -/
def crcByte (crc : UInt32) (value : UInt8) : UInt32 :=
  (List.range 8).foldl
    (fun crc _ => if crc &&& 1 = 1 then (crc >>> 1) ^^^ 0xEDB88320 else crc >>> 1)
    (crc ^^^ value.toUInt32)

/-- The CRC-32 checksum. -/
scoped instance : Crc32 where
  hash bytes := bytes.foldl crcByte 0xFFFFFFFF ^^^ 0xFFFFFFFF

example : Crc32.hash [0x31, 0x32, 0x33, 0x34, 0x35, 0x36, 0x37, 0x38, 0x39] = 0xCBF43926 := by
  decide +kernel

end Standard

end Rind
