import Rind.Core.Error
import Rind.Data.Codec
import Rind.Data.Maps
import Mathlib.Data.List.Sort

/-!
# Accounts

The accounts, their passwords and their groups, as they are read from the
files of the system.  The permissions of accounts and groups are kept in a
binary file of their own.
-/

namespace Rind

/-! ## Records -/

structure UserRecord where
  username : Ustr
  uid : UInt32
  gid : UInt32
  gecos : String
  home : String
  shell : String
  permissions : List UInt16
  deriving DecidableEq, Repr

/-- A number of 32 bits. -/
def parseU32 (text : String) : Option UInt32 :=
  (Text.parseUnsigned (2 ^ 32) text).map UInt32.ofNat

def UserRecord.fromPasswdLine (line : String) : Option UserRecord :=
  match Text.splitn ':' line 7 with
  | [username, _, uid, gid, gecos, home, shell] => do
      let uid ← parseU32 uid
      let gid ← parseU32 gid
      some { username, uid, gid, gecos, home, shell, permissions := [] }
  | _ => none

structure ShadowEntry where
  username : Ustr
  passwordHash : String
  lastChanged : Option Int
  minDays : Option Int
  maxDays : Option Int
  warnDays : Option Int
  inactiveDays : Option Int
  expireDate : Option Int
  deriving DecidableEq, Repr

namespace ShadowEntry

def fromShadowLine (line : String) : Option ShadowEntry :=
  match Text.splitn ':' line 9 with
  | username :: hash :: last :: min :: max :: warn :: inactive :: expire :: _ =>
      some
        { username, passwordHash := hash
          lastChanged := Text.parseSigned last
          minDays := Text.parseSigned min
          maxDays := Text.parseSigned max
          warnDays := Text.parseSigned warn
          inactiveDays := Text.parseSigned inactive
          expireDate := Text.parseSigned expire }
  | _ => none

def isLocked (entry : ShadowEntry) : Bool :=
  entry.passwordHash.isEmpty || Text.startsWith entry.passwordHash "!" ||
    Text.startsWith entry.passwordHash "*"

def isExpired (today : Int) (entry : ShadowEntry) : Bool :=
  entry.expireDate.any fun expire => 0 < expire && expire ≤ today

/-- Whether the password has expired. The day it does is computed with 64 bits. -/
def passwordExpired (today : Int) (entry : ShadowEntry) : Bool :=
  match entry.lastChanged, entry.maxDays with
  | some last, some max => 0 < max && (last + max).bmod (2 ^ 64) ≤ today
  | _, _ => false

end ShadowEntry

structure GroupEntry where
  name : Ustr
  gid : UInt32
  members : List Ustr
  permissions : List UInt16
  deriving DecidableEq, Repr

def GroupEntry.fromGroupLine (line : String) : Option GroupEntry :=
  match Text.splitn ':' line 4 with
  | [name, _, gid, members] => do
      let gid ← parseU32 gid
      some
        { name, gid
          members := ((Text.split ',' members).filter (!·.isEmpty)).map Text.trim
          permissions := [] }
  | _ => none

/-! ## The permission file -/

/-- The permissions of an account or a group in the file. -/
structure PermissionEntry where
  isUser : Bool
  id : UInt32
  permissions : List UInt16
  deriving DecidableEq, Repr

namespace Codec

def u16 : Codec UInt16 where
  write value := littleEndian 2 value.toNat
  read bytes := (readLittleEndian 2 bytes).map fun (value, rest) => (UInt16.ofNat value, rest)
  read_write value rest := by
    rw [readLittleEndian_littleEndian value.toNat_lt, Option.map_some]
    simp

def u32 : Codec UInt32 where
  write value := littleEndian 4 value.toNat
  read bytes := (readLittleEndian 4 bytes).map fun (value, rest) => (UInt32.ofNat value, rest)
  read_write value rest := by
    rw [readLittleEndian_littleEndian value.toNat_lt, Option.map_some]
    simp

end Codec

namespace PermissionEntry

def write (entry : PermissionEntry) : List UInt8 :=
  (if entry.isUser then 0 else 1) :: Codec.u32.write entry.id ++
    Codec.u16.write (UInt16.ofNat entry.permissions.length) ++
    entry.permissions.flatMap Codec.u16.write

def read (bytes : List UInt8) : Option (PermissionEntry × List UInt8) := do
  let (tag, bytes) ← Codec.byte.read bytes
  let (id, bytes) ← Codec.u32.read bytes
  let (count, bytes) ← Codec.u16.read bytes
  let (permissions, bytes) ← Codec.u16.readCount count.toNat bytes
  some ({ isUser := tag == 0, id, permissions }, bytes)

/-- An entry is read back unless it has more permissions than can be counted. -/
theorem read_write {entry : PermissionEntry} (fits : entry.permissions.length < 2 ^ 16)
    (rest : List UInt8) : read (entry.write ++ rest) = some (entry, rest) := by
  have count : (UInt16.ofNat entry.permissions.length).toNat = entry.permissions.length := by
    rw [UInt16.toNat_ofNat', Nat.mod_eq_of_lt fits]
  have tag : ((if entry.isUser then (0 : UInt8) else 1) == 0) = entry.isUser := by
    cases entry.isUser <;> rfl
  rw [read, write]
  simp only [List.cons_append, List.append_assoc, Codec.byte, Option.bind_eq_bind, Option.bind_some,
    Codec.read_write, count, Codec.readCount_write, tag]

end PermissionEntry

/-- The entries of the file, `none` where it ends within one. -/
def readEntries : (fuel : Nat) → List UInt8 → Option (List PermissionEntry)
  | _, [] => some []
  | 0, _ :: _ => none
  | fuel + 1, bytes => do
      let (entry, bytes) ← PermissionEntry.read bytes
      let entries ← readEntries fuel bytes
      some (entry :: entries)

theorem readEntries_write {entries : List PermissionEntry}
    (fit : ∀ entry ∈ entries, entry.permissions.length < 2 ^ 16) {fuel : Nat}
    (enough : entries.length ≤ fuel) :
    readEntries fuel (entries.flatMap PermissionEntry.write) = some entries := by
  induction entries generalizing fuel with
  | nil => rw [List.flatMap_nil, readEntries]
  | cons entry entries ih =>
      obtain ⟨fuel, rfl⟩ : ∃ rest, fuel = rest + 1 :=
        Nat.exists_eq_add_one_of_ne_zero (Nat.ne_of_gt (Nat.lt_of_lt_of_le (by simp) enough))
      have first := PermissionEntry.read_write (fit entry (by simp))
        (entries.flatMap PermissionEntry.write)
      have others := ih (fun other listed => fit other (List.mem_cons_of_mem _ listed))
        (Nat.le_of_succ_le_succ enough)
      rw [List.flatMap_cons]
      cases bytes : entry.write ++ entries.flatMap PermissionEntry.write with
      | nil => simp [PermissionEntry.write] at bytes
      | cons byte bytes' =>
          rw [readEntries, ← bytes, first]
          · simp only [Option.bind_eq_bind, Option.bind_some, others]
          · simp

/-- A file is not shorter than its number of entries. -/
theorem length_le_write (entries : List PermissionEntry) :
    entries.length ≤ (entries.flatMap PermissionEntry.write).length := by
  induction entries with
  | nil => rfl
  | cons entry entries ih =>
      rw [List.flatMap_cons, List.length_append, List.length_cons, Nat.add_comm]
      exact Nat.add_le_add (by simp [PermissionEntry.write]) ih

/-! ## The store -/

/-- The files that the accounts are read from. -/
structure UserFiles where
  passwdPath : String
  passwd : Except String String
  shadow : Except String String
  group : Except String String
  /-- The permission file, if there is one. -/
  perms : Option (Except String (List UInt8))

structure UserStore where
  users : List UserRecord
  shadows : List ShadowEntry
  groups : List GroupEntry
  nameIndex : AList fun _ : Ustr => Nat
  uidIndex : AList fun _ : UInt32 => Nat

namespace UserStore

def empty : UserStore := ⟨[], [], [], ∅, ∅⟩

/-- The permissions that the file lists for an id. -/
abbrev Listed : Type := AList fun _ : UInt32 => List UInt16

/-- The permissions of the accounts, or of the groups, in some entries. The last
entry of an id counts. -/
def listed (isUser : Bool) (entries : List PermissionEntry) : Listed :=
  Maps.insertAll PermissionEntry.id PermissionEntry.permissions
    (entries.filter (·.isUser == isUser)) ∅

/-- The lines of a file that are neither empty nor comments. -/
def contentLines (text : String) : List String :=
  ((Text.lines text).map Text.trim).filter fun line => !line.isEmpty && !Text.startsWith line "#"

/-- Add an account. The first one of an id gets what is listed for it. -/
def pushUser (state : UserStore × Listed) (user : UserRecord) : UserStore × Listed :=
  let (store, listed) := state
  let idx := store.users.length
  ({ store with
      users := store.users ++
        [{ user with permissions := (listed.lookup user.uid).getD user.permissions }]
      nameIndex := store.nameIndex.insert user.username idx
      uidIndex := store.uidIndex.insert user.uid idx },
    listed.erase user.uid)

def pushGroup (state : UserStore × Listed) (group : GroupEntry) : UserStore × Listed :=
  let (store, listed) := state
  ({ store with
      groups := store.groups ++
        [{ group with permissions := (listed.lookup group.gid).getD group.permissions }] },
    listed.erase group.gid)

def failedToRead (path error : String) : CoreError :=
  .custom ("failed to read " ++ path ++ ": " ++ error)

/-- The entries of the permission file. -/
def permissionEntries (files : UserFiles) : Except CoreError (List PermissionEntry) :=
  match files.perms with
  | none => .ok []
  | some (.error error) => .error (failedToRead files.passwdPath error)
  | some (.ok bytes) =>
      match readEntries bytes.length bytes with
      | some entries => .ok entries
      | none => .error (.custom "failed to fill whole buffer")

/-- The records of the lines of a file, none if it cannot be read. -/
def records {α : Type} (parse : String → Option α) (file : Except String String) : List α :=
  match file with
  | .ok text => (contentLines text).filterMap parse
  | .error _ => []

/-- The store of some records and the entries of the permission file. -/
def ofRecords (users : List UserRecord) (shadows : List ShadowEntry) (groups : List GroupEntry)
    (entries : List PermissionEntry) : UserStore :=
  let withUsers := (users.foldl pushUser (empty, listed true entries)).1
  (groups.foldl pushGroup ({ withUsers with shadows }, listed false entries)).1

def load (files : UserFiles) : Except CoreError UserStore := do
  let entries ← permissionEntries files
  match files.passwd with
  | .error error => .error (failedToRead files.passwdPath error)
  | .ok _ =>
      .ok (ofRecords (records UserRecord.fromPasswdLine files.passwd)
        (records ShadowEntry.fromShadowLine files.shadow)
        (records GroupEntry.fromGroupLine files.group) entries)

/-! ### Lookups -/

variable (store : UserStore)

def lookupByName (name : Ustr) : Option UserRecord :=
  (store.nameIndex.lookup name).bind (store.users[·]?)

def lookupByUid (uid : UInt32) : Option UserRecord :=
  (store.uidIndex.lookup uid).bind (store.users[·]?)

def group (gid : UInt32) : Option GroupEntry := store.groups.find? (·.gid == gid)

def groupByName (name : Ustr) : Option GroupEntry := store.groups.find? (·.name == name)

def shadowFor (username : Ustr) : Option ShadowEntry :=
  store.shadows.find? (·.username == username)

/-- The names of an account's groups, its own first. -/
def groupsFor (user : UserRecord) : List Ustr :=
  let primary := ((store.groups.find? (·.gid == user.gid)).map GroupEntry.name).toList
  store.groups.foldl
    (fun names group =>
      if group.members.contains user.username && !names.contains group.name then
        names ++ [group.name]
      else names)
    primary

def userInGroup (user : UserRecord) (name : Ustr) : Bool := (store.groupsFor user).contains name

end UserStore

/-! ## Writing permissions -/

/-- Permissions granted to or revoked from ids. -/
abbrev Overlay : Type := AList fun _ : UInt32 => List UInt16

namespace Overlay

/-- The permissions of an id. -/
def of (overlay : Overlay) (id : UInt32) : List UInt16 := (overlay.lookup id).getD []

def has (overlay : Overlay) (id : UInt32) (perm : UInt16) : Bool := (overlay.of id).contains perm

/-- `entry(id).or_default().insert(perm)` -/
def add (overlay : Overlay) (id : UInt32) (perm : UInt16) : Overlay :=
  overlay.insert id ((overlay.of id).insert perm)

/-- `entry(id).or_default().remove(&perm)` -/
def remove (overlay : Overlay) (id : UInt32) (perm : UInt16) : Overlay :=
  overlay.insert id ((overlay.of id).filter (· != perm))

end Overlay

/-- Insert into an ordered set. -/
def insertOrdered (set : List UInt16) (perm : UInt16) : List UInt16 :=
  if perm ∈ set then set else set.orderedInsert (· ≤ ·) perm

/-- The permissions that are left, in order, with the overlays over them. -/
def effective (permissions revokes grants : List UInt16) : List UInt16 :=
  grants.foldl insertOrdered
    ((permissions.foldl insertOrdered []).filter fun perm => !revokes.contains perm)

/-- The bytes of one account or group. -/
def writeEntry (isUser : Bool) (id : UInt32) (permissions : List UInt16) (name : String) :
    Except CoreError (List UInt8) :=
  if permissions.isEmpty then .ok []
  else if permissions.length < 2 ^ 16 then .ok (PermissionEntry.write ⟨isUser, id, permissions⟩)
  else
    .error (.custom ("too many permissions for " ++ name ++ " (" ++ toString id.toNat ++ ")"))

/-- The new contents of the permission file, `outcome` being what the file
system answers. -/
def UserStore.writePermsWithOverlay (store : UserStore) (path : String)
    (outcome : Except String Unit) (userGrants userRevokes groupGrants groupRevokes : Overlay) :
    Except CoreError (List UInt8) := do
  let users ← store.users.mapM fun user =>
    writeEntry true user.uid
      (effective user.permissions (userRevokes.of user.uid) (userGrants.of user.uid))
      ("user " ++ user.username)
  let groups ← store.groups.mapM fun group =>
    writeEntry false group.gid
      (effective group.permissions (groupRevokes.of group.gid) (groupGrants.of group.gid))
      ("group " ++ group.name)
  match outcome with
  | .error error => .error (.custom ("failed to write " ++ path ++ ": " ++ error))
  | .ok _ => .ok (users.flatten ++ groups.flatten)

end Rind
