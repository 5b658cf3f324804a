import Rind.Core.Accounts
import Rind.Core.Answers
import Rind.Core.Revocation

/-!
# Permissions over a restart

What is left of grants and revocations when they are written to the permission
file and loaded again with the same accounts.
-/

namespace Rind

/-! ## The written file -/

theorem mem_foldl_insertOrdered {perms set : List UInt16} {perm : UInt16} :
    perm ∈ perms.foldl insertOrdered set ↔ perm ∈ perms ∨ perm ∈ set := by
  induction perms generalizing set with
  | nil => simp
  | cons first rest ih =>
      rw [List.foldl_cons, ih, insertOrdered]
      split
      · rename_i listed
        constructor
        · exact Or.imp_left (List.mem_cons_of_mem _)
        · rintro (either | inSet)
          · rcases List.mem_cons.mp either with rfl | inRest
            · exact .inr listed
            · exact .inl inRest
          · exact .inr inSet
      · rw [List.mem_orderedInsert, List.mem_cons, or_left_comm, or_assoc]

@[simp] theorem mem_effective {permissions revokes grants : List UInt16} {perm : UInt16} :
    perm ∈ effective permissions revokes grants ↔
      perm ∈ grants ∨ perm ∈ permissions ∧ perm ∉ revokes := by
  rw [effective, mem_foldl_insertOrdered, List.mem_filter, mem_foldl_insertOrdered]
  simp

/-- The entries of some ids with permissions. An id without any has none. -/
def entriesOf (isUser : Bool) (rows : List (UInt32 × List UInt16)) : List PermissionEntry :=
  (rows.filter (!·.2.isEmpty)).map fun row => ⟨isUser, row.1, row.2⟩

/-- What is written of one id. -/
theorem writeEntry_ok {isUser : Bool} {row : UInt32 × List UInt16} {name : String}
    {bytes : List UInt8} (written : writeEntry isUser row.1 row.2 name = .ok bytes) :
    bytes = (entriesOf isUser [row]).flatMap PermissionEntry.write ∧
      ∀ entry ∈ entriesOf isUser [row], entry.permissions.length < 2 ^ 16 := by
  rw [writeEntry] at written
  by_cases nothing : row.2.isEmpty
  · rw [if_pos nothing] at written
    cases written
    simp [entriesOf, nothing]
  · rw [if_neg nothing] at written
    split at written
    · rename_i fits
      cases written
      simpa [entriesOf, nothing] using fits
    · cases written

/-- What is written of many. -/
theorem writeEntries_ok {α : Type} {isUser : Bool} (row : α → UInt32 × List UInt16)
    (name : α → String) {items : List α} {bytes : List (List UInt8)}
    (written : items.mapM (fun item => writeEntry isUser (row item).1 (row item).2 (name item)) =
      .ok bytes) :
    bytes.flatten = (entriesOf isUser (items.map row)).flatMap PermissionEntry.write ∧
      ∀ entry ∈ entriesOf isUser (items.map row), entry.permissions.length < 2 ^ 16 := by
  have each := forall₂_of_mapM written
  clear written
  induction each with
  | nil => exact ⟨rfl, by simp [entriesOf]⟩
  | @cons item bytes rest more first others ih =>
      obtain ⟨bytesEq, fits⟩ := writeEntry_ok first
      have split : entriesOf isUser ((item :: rest).map row) =
          entriesOf isUser [row item] ++ entriesOf isUser (rest.map row) := by
        rw [entriesOf, entriesOf, entriesOf, ← List.map_append, ← List.filter_append]
        rfl
      rw [split, List.flatMap_append, List.flatten_cons, bytesEq, ih.1]
      exact ⟨rfl, List.forall_mem_append.mpr ⟨fits, ih.2⟩⟩

namespace UserStore

variable (store : UserStore) (userGrants userRevokes groupGrants groupRevokes grants revokes : Overlay)

/-- The permissions that are written for an account. -/
def userRow (user : UserRecord) : UInt32 × List UInt16 :=
  (user.uid, effective user.permissions (revokes.of user.uid) (grants.of user.uid))

def groupRow (group : GroupEntry) : UInt32 × List UInt16 :=
  (group.gid, effective group.permissions (revokes.of group.gid) (grants.of group.gid))

/-- The entries that are written. -/
def writtenEntries : List PermissionEntry :=
  entriesOf true (store.users.map (userRow userGrants userRevokes)) ++
    entriesOf false (store.groups.map (groupRow groupGrants groupRevokes))

variable {store userGrants userRevokes groupGrants groupRevokes}

/-- A file that was written holds the written entries. -/
theorem readEntries_writePerms {path : String} {outcome : Except String Unit} {bytes : List UInt8}
    (written : store.writePermsWithOverlay path outcome userGrants userRevokes groupGrants groupRevokes =
      .ok bytes) :
    readEntries bytes.length bytes =
      some (store.writtenEntries userGrants userRevokes groupGrants groupRevokes) := by
  rw [writePermsWithOverlay] at written
  obtain ⟨users, usersOk, written⟩ := bind_eq_ok.mp written
  obtain ⟨groups, groupsOk, written⟩ := bind_eq_ok.mp written
  have flat : bytes = users.flatten ++ groups.flatten := by
    cases outcome with
    | error error => cases written
    | ok _ =>
        cases written
        rfl
  obtain ⟨usersFlat, usersFit⟩ := writeEntries_ok (userRow userGrants userRevokes)
    (fun user => "user " ++ user.username) usersOk
  obtain ⟨groupsFlat, groupsFit⟩ := writeEntries_ok (groupRow groupGrants groupRevokes)
    (fun group => "group " ++ group.name) groupsOk
  have whole : bytes = (store.writtenEntries userGrants userRevokes groupGrants
      groupRevokes).flatMap PermissionEntry.write := by
    rw [flat, usersFlat, groupsFlat, writtenEntries, List.flatMap_append]
  rw [whole]
  exact readEntries_write (List.forall_mem_append.mpr ⟨usersFit, groupsFit⟩) (length_le_write _)

end UserStore

/-! ## What is listed afterwards -/

/-- The last nonempty row of an id is listed. -/
theorem lookup_entriesOf {α : Type} {isUser : Bool} (id : α → UInt32)
    (permissions : UInt32 → α → List UInt16) {items : List α} {key : UInt32} :
    (Maps.insertAll PermissionEntry.id PermissionEntry.permissions
      (entriesOf isUser (items.map fun item => (id item, permissions (id item) item))) ∅).lookup key =
      (((items.filter (id · == key)).map (permissions key)).filter (!·.isEmpty)).getLast? := by
  rw [Maps.lookup_insertAll_eq, AList.lookup_empty, Option.or_none, ← List.getLast?_map]
  congr 1
  induction items with
  | nil => rfl
  | cons item rest ih =>
      rw [entriesOf] at ih ⊢
      rw [List.map_cons, List.filter_cons, List.filter_cons]
      by_cases same : id item = key
      · subst same
        cases nothing : (permissions (id item) item).isEmpty <;> simp [nothing, ih]
      · cases (permissions (id item) item).isEmpty <;> simp [ih, same]

namespace UserStore

variable {store : UserStore} {userGrants userRevokes groupGrants groupRevokes : Overlay}

theorem listed_true_writtenEntries {uid : UInt32} :
    (listed true (store.writtenEntries userGrants userRevokes groupGrants groupRevokes)).lookup uid =
      (((store.users.filter (·.uid == uid)).map fun user =>
        effective user.permissions (userRevokes.of uid) (userGrants.of uid)).filter
          (!·.isEmpty)).getLast? := by
  have entries : (store.writtenEntries userGrants userRevokes groupGrants groupRevokes).filter
      (·.isUser == true) = entriesOf true (store.users.map (userRow userGrants userRevokes)) := by
    simp [writtenEntries, entriesOf, List.filter_map, Function.comp_def]
  rw [listed, entries]
  exact lookup_entriesOf UserRecord.uid fun uid user =>
    effective user.permissions (userRevokes.of uid) (userGrants.of uid)

theorem listed_false_writtenEntries {gid : UInt32} :
    (listed false (store.writtenEntries userGrants userRevokes groupGrants groupRevokes)).lookup gid =
      (((store.groups.filter (·.gid == gid)).map fun group =>
        effective group.permissions (groupRevokes.of gid) (groupGrants.of gid)).filter
          (!·.isEmpty)).getLast? := by
  have entries : (store.writtenEntries userGrants userRevokes groupGrants groupRevokes).filter
      (·.isUser == false) = entriesOf false (store.groups.map (groupRow groupGrants groupRevokes)) := by
    simp [writtenEntries, entriesOf, List.filter_map, Function.comp_def]
  rw [listed, entries]
  exact lookup_entriesOf GroupEntry.gid fun gid group =>
    effective group.permissions (groupRevokes.of gid) (groupGrants.of gid)

end UserStore

/-- What is listed where all but the first item had no permissions. -/
theorem mem_getLast_effective (permissions : List UInt16) {revokes grants : List UInt16}
    {others : List (List UInt16)}
    (bare : ∀ other ∈ others, other = effective [] revokes grants) {perm : UInt16} :
    perm ∈ (((effective permissions revokes grants :: others).filter (!·.isEmpty)).getLast?).getD [] ↔
      perm ∈ grants ∨ perm ∈ permissions ∧ perm ∉ revokes ∧ (others = [] ∨ grants = []) := by
  cases grants with
  | nil =>
      have empty : effective [] revokes [] = [] := by
        refine List.eq_nil_iff_forall_not_mem.mpr fun perm => ?_
        simp
      have gone : others.filter (!·.isEmpty) = [] := by
        refine List.filter_eq_nil_iff.mpr fun other member => ?_
        simp [bare other member, empty]
      rw [List.filter_cons, gone]
      split
      · simp
      · rename_i nothing
        have nothing : effective permissions revokes [] = [] := by simpa using nothing
        have none := congrArg (perm ∈ ·) nothing
        simp at none
        simpa using none
  | cons first rest =>
      have some : ∀ perms, (!(effective perms revokes (first :: rest)).isEmpty) = true := by
        intro perms
        have listed : first ∈ effective perms revokes (first :: rest) := by simp
        simp [List.ne_nil_of_mem listed]
      have kept : others.filter (!·.isEmpty) = others := by
        refine List.filter_eq_self.mpr fun other member => ?_
        rw [bare other member, some]
      rw [List.filter_cons, if_pos (some _), kept]
      cases last : others.getLast? with
      | none =>
          rw [List.getLast?_eq_none_iff] at last
          subst last
          simp
      | some other =>
          have member := List.mem_of_getLast? last
          have nonempty : others ≠ [] := List.ne_nil_of_mem member
          rw [List.getLast?_cons, last, bare other member]
          simp [nonempty]

/-! ## The loaded store -/

namespace UserStore

/-- Whether several accounts have the id. -/
def sharedUid (store : UserStore) (uid : UInt32) : Bool :=
  1 < (store.users.filter (·.uid == uid)).length

def sharedGid (store : UserStore) (gid : UInt32) : Bool :=
  1 < (store.groups.filter (·.gid == gid)).length

/-- Records as they are in their files, without permissions. -/
structure Bare (users : List UserRecord) (groups : List GroupEntry) : Prop where
  users : ∀ user ∈ users, user.permissions = []
  groups : ∀ group ∈ groups, group.permissions = []

theorem group_eq_head? (store : UserStore) (gid : UInt32) :
    store.group gid = (store.groups.filter (·.gid == gid)).head? := by
  rw [group, List.head?_filter]

section Reloaded

variable {users : List UserRecord} {shadows : List ShadowEntry} {groups : List GroupEntry}
  {entries : List PermissionEntry} {userGrants userRevokes groupGrants groupRevokes : Overlay}

/-- Loading what was written of a loaded store. -/
def rewritten (users : List UserRecord) (shadows : List ShadowEntry) (groups : List GroupEntry)
    (entries : List PermissionEntry) (userGrants userRevokes groupGrants groupRevokes : Overlay) :
    UserStore :=
  ofRecords users shadows groups ((ofRecords users shadows groups entries).writtenEntries userGrants
    userRevokes groupGrants groupRevokes)

/-- What a group has after it was written and loaded. -/
theorem group_rewritten (bare : Bare users groups) (gid : UInt32) :
    let store := ofRecords users shadows groups entries
    let again := rewritten users shadows groups entries userGrants userRevokes groupGrants groupRevokes
    (store.group gid).isSome = (again.group gid).isSome ∧
    ∀ group ∈ store.group gid, ∀ group' ∈ again.group gid, ∀ perm,
      perm ∈ group'.permissions ↔ perm ∈ groupGrants.of gid ∨
        perm ∈ group.permissions ∧ perm ∉ groupRevokes.of gid ∧
          (store.sharedGid gid = false ∨ groupGrants.of gid = []) := by
  intro store again
  have before := filter_groups_ofRecords users shadows groups entries gid
  have after := filter_groups_ofRecords users shadows groups
    (store.writtenEntries userGrants userRevokes groupGrants groupRevokes) gid
  have bare' : ∀ group ∈ groups.filter (·.gid == gid), group.permissions = [] :=
    fun group member => bare.groups group (List.mem_of_mem_filter member)
  rw [listed_false_writtenEntries, before] at after
  rw [group_eq_head?, group_eq_head?, sharedGid]
  change store.groups.filter (·.gid == gid) = _ at before
  change again.groups.filter (·.gid == gid) = _ at after
  rw [before, after]
  cases found : groups.filter (·.gid == gid) with
  | nil => simp [giveFirst]
  | cons first rest =>
      rw [found] at bare'
      refine ⟨rfl, ?_⟩
      rintro group ⟨⟩ group' ⟨⟩ perm
      obtain ⟨bareFirst, bareRest⟩ := List.forall_mem_cons.mp bare'
      have others : ∀ other ∈ rest.map fun group : GroupEntry =>
          effective (giveGroup group none).permissions (groupRevokes.of gid) (groupGrants.of gid),
          other = effective [] (groupRevokes.of gid) (groupGrants.of gid) := by
        intro other member
        obtain ⟨group, inRest, rfl⟩ := List.mem_map.mp member
        rw [giveGroup, Option.getD_none, bareRest group inRest]
      have single : decide (1 < rest.length + 1) = false ↔ rest = [] := by simp
      simp only [giveFirst, List.map_cons, List.map_map, List.length_cons, List.length_map,
        giveGroup, bareFirst, single]
      refine (mem_getLast_effective _ others).trans ?_
      simp

/-- A record without what it was given. -/
def bareUser (user : UserRecord) : UserRecord := { user with permissions := [] }

def bareGroup (group : GroupEntry) : GroupEntry := { group with permissions := [] }

/-- The last of several accounts is not given anything. -/
theorem getLast?_giveFirst (listed : Option (List UInt16)) (first second : UserRecord)
    (rest : List UserRecord) :
    (giveFirst giveUser listed (first :: second :: rest)).getLast? =
      some ((second :: rest).getLast (List.cons_ne_nil _ _)) := by
  have same : (second :: rest).map (giveUser · none) = second :: rest := List.map_id _
  rw [giveFirst, same, List.getLast?_cons_cons, List.getLast?_eq_some_getLast]

/-- The account that is found of several has no permissions of its own. -/
theorem permissions_of_sharedUid (bare : Bare users groups) {uid : UInt32} {user : UserRecord}
    (found : user ∈ (ofRecords users shadows groups entries).lookupByUid uid)
    (shared : (ofRecords users shadows groups entries).sharedUid uid = true) :
    user.permissions = [] := by
  have filtered := filter_users_ofRecords users shadows groups entries uid
  rw [lookupByUid_ofRecords, filtered] at found
  rw [sharedUid, filtered] at shared
  match listed : users.filter (·.uid == uid) with
  | [] => simp [listed, giveFirst] at found
  | [first] => simp [listed, giveFirst] at shared
  | first :: second :: rest =>
      rw [listed, getLast?_giveFirst, Option.mem_some_iff] at found
      have member : user ∈ users.filter (·.uid == uid) := by
        rw [listed, ← found]
        exact List.mem_cons_of_mem _ (List.getLast_mem _)
      exact bare.users user (List.mem_of_mem_filter member)

/-- What an account has after it was written and loaded. -/
theorem lookupByUid_rewritten (bare : Bare users groups) (uid : UInt32) :
    let store := ofRecords users shadows groups entries
    let again := rewritten users shadows groups entries userGrants userRevokes groupGrants groupRevokes
    (store.lookupByUid uid).map bareUser = (again.lookupByUid uid).map bareUser ∧
    ∀ user ∈ store.lookupByUid uid, ∀ user' ∈ again.lookupByUid uid, ∀ perm,
      perm ∈ user'.permissions ↔ store.sharedUid uid = false ∧
        (perm ∈ userGrants.of uid ∨ perm ∈ user.permissions ∧ perm ∉ userRevokes.of uid) := by
  intro store again
  have before := filter_users_ofRecords users shadows groups entries uid
  have after := filter_users_ofRecords users shadows groups
    (store.writtenEntries userGrants userRevokes groupGrants groupRevokes) uid
  have bare' : ∀ user ∈ users.filter (·.uid == uid), user.permissions = [] :=
    fun user member => bare.users user (List.mem_of_mem_filter member)
  have found := lookupByUid_ofRecords users shadows groups entries uid
  have found' := lookupByUid_ofRecords users shadows groups
    (store.writtenEntries userGrants userRevokes groupGrants groupRevokes) uid
  rw [listed_true_writtenEntries, before] at after
  change store.lookupByUid uid = _ at found
  change again.lookupByUid uid = _ at found'
  rw [sharedUid, found, found', before, after]
  rcases listed : users.filter (·.uid == uid) with _ | ⟨only, _ | ⟨second, rest⟩⟩ <;> rw [listed]
  · simp [giveFirst]
  · refine ⟨rfl, ?_⟩
    rintro user ⟨⟩ user' ⟨⟩ perm
    have bareOnly := bare' only (by simp [listed])
    simp only [giveFirst, List.map_cons, List.map_nil, giveUser, bareOnly]
    refine (mem_getLast_effective _ (List.forall_mem_nil _)).trans ?_
    simp
  · -- nothing is listed for the last one, which is found
    have bareLast : ((second :: rest).getLast (List.cons_ne_nil _ _)).permissions = [] := by
      refine bare' _ ?_
      rw [listed]
      exact List.mem_cons_of_mem _ (List.getLast_mem _)
    rw [getLast?_giveFirst, getLast?_giveFirst]
    refine ⟨rfl, ?_⟩
    rintro user ⟨⟩ user' ⟨⟩ perm
    simp [bareLast, giveFirst]

/-- Writing and loading changes nothing but permissions. -/
theorem groups_rewritten :
    (ofRecords users shadows groups entries).groups.map bareGroup =
      (rewritten users shadows groups entries userGrants userRevokes groupGrants groupRevokes).groups.map
        bareGroup := by
  have same : ∀ (groups : List GroupEntry) (listed : Listed),
      (assigned GroupEntry.gid giveGroup groups listed).map bareGroup = groups.map bareGroup := by
    intro groups
    induction groups with
    | nil => exact fun _ => rfl
    | cons group rest ih =>
        intro listed
        rw [assigned, List.map_cons, List.map_cons, ih]
        rfl
  rw [rewritten, groups_ofRecords, groups_ofRecords, same, same]

/-- How the accounts that were written and loaded compare with the ones before. -/
structure Survives (store again : UserStore) (userGrants userRevokes groupGrants groupRevokes : Overlay) :
    Prop where
  account : ∀ uid, (store.lookupByUid uid).map bareUser = (again.lookupByUid uid).map bareUser
  bare : ∀ uid, ∀ user ∈ store.lookupByUid uid, store.sharedUid uid = true → user.permissions = []
  user : ∀ uid, ∀ user ∈ store.lookupByUid uid, ∀ user' ∈ again.lookupByUid uid, ∀ perm,
    perm ∈ user'.permissions ↔ store.sharedUid uid = false ∧
      (perm ∈ userGrants.of uid ∨ perm ∈ user.permissions ∧ perm ∉ userRevokes.of uid)
  known : ∀ gid, (store.group gid).isSome = (again.group gid).isSome
  group : ∀ gid, ∀ group ∈ store.group gid, ∀ group' ∈ again.group gid, ∀ perm,
    perm ∈ group'.permissions ↔ perm ∈ groupGrants.of gid ∨
      perm ∈ group.permissions ∧ perm ∉ groupRevokes.of gid ∧
        (store.sharedGid gid = false ∨ groupGrants.of gid = [])
  groups : store.groups.map bareGroup = again.groups.map bareGroup

theorem survives_rewritten (bare : Bare users groups) :
    Survives (ofRecords users shadows groups entries)
      (rewritten users shadows groups entries userGrants userRevokes groupGrants groupRevokes)
      userGrants userRevokes groupGrants groupRevokes where
  account uid := (lookupByUid_rewritten bare uid).1
  bare _ _ found := permissions_of_sharedUid bare found
  user uid := (lookupByUid_rewritten bare uid).2
  known gid := (group_rewritten bare gid).1
  group gid := (group_rewritten bare gid).2
  groups := groups_rewritten

end Reloaded

end UserStore

end Rind
