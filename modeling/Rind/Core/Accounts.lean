import Rind.Core.UserStore

/-!
# Loaded accounts

What lookups find in a store that was loaded.  Of several accounts of one id the
last is found, but the first was given the permissions of the file.
-/

namespace Rind

/-! ## Giving listed permissions -/

section Assigned

variable {α : Type} (id : α → UInt32) (give : α → Option (List UInt16) → α)

/-- Give each item what is listed for its id, and the later ones of the id nothing. -/
def assigned : List α → UserStore.Listed → List α
  | [], _ => []
  | item :: rest, listed =>
      give item (listed.lookup (id item)) :: assigned rest (listed.erase (id item))

/-- Give the first of some items what is listed. -/
def giveFirst (permissions : Option (List UInt16)) : List α → List α
  | [] => []
  | first :: rest => give first permissions :: rest.map (give · none)

variable {id give}

theorem giveFirst_none (items : List α) : giveFirst give none items = items.map (give · none) := by
  cases items <;> rfl

/-- Among the items of an id the first is given what is listed. -/
theorem filter_assigned (keeps : ∀ item permissions, id (give item permissions) = id item)
    (items : List α) (listed : UserStore.Listed) (key : UInt32) :
    (assigned id give items listed).filter (id · == key) =
      giveFirst give (listed.lookup key) (items.filter (id · == key)) := by
  induction items generalizing listed with
  | nil => rfl
  | cons item rest ih =>
      rw [assigned, List.filter_cons, List.filter_cons, keeps, ih]
      by_cases same : id item = key
      · subst same
        rw [if_pos (beq_self_eq_true _), if_pos (beq_self_eq_true _), AList.lookup_erase,
          giveFirst_none]
        rfl
      · rw [if_neg (by simpa using same), if_neg (by simpa using same),
          AList.lookup_erase_ne (Ne.symm same)]

end Assigned

namespace UserStore

def giveUser (user : UserRecord) (permissions : Option (List UInt16)) : UserRecord :=
  { user with permissions := permissions.getD user.permissions }

def giveGroup (group : GroupEntry) (permissions : Option (List UInt16)) : GroupEntry :=
  { group with permissions := permissions.getD group.permissions }

/-! ## Accounts -/

/-- Every index leads to an account. -/
def InRange (store : UserStore) : Prop :=
  (∀ uid idx, store.uidIndex.lookup uid = some idx → idx < store.users.length) ∧
    ∀ name idx, store.nameIndex.lookup name = some idx → idx < store.users.length

section Push

variable {store : UserStore} {listed : Listed} {user : UserRecord}

theorem inRange_pushUser (inRange : store.InRange) :
    (pushUser (store, listed) user).1.InRange := by
  have grown : ∀ {κ : Type} [DecidableEq κ] (index : AList fun _ : κ => Nat) (key : κ),
      (∀ key idx, index.lookup key = some idx → idx < store.users.length) →
      ∀ other idx, (index.insert key store.users.length).lookup other = some idx →
        idx < store.users.length + 1 := by
    intro κ _ index key bounded other idx found
    by_cases same : other = key
    · subst same
      rw [AList.lookup_insert, Option.some.injEq] at found
      omega
    · rw [AList.lookup_insert_ne same] at found
      exact Nat.lt_succ_of_lt (bounded other idx found)
  simp only [InRange, pushUser, List.length_append, List.length_singleton]
  exact ⟨grown _ _ inRange.1, grown _ _ inRange.2⟩

theorem lookupByUid_pushUser (inRange : store.InRange) (uid : UInt32) :
    (pushUser (store, listed) user).1.lookupByUid uid =
      if user.uid = uid then some (giveUser user (listed.lookup user.uid)) else store.lookupByUid uid := by
  simp only [lookupByUid, pushUser]
  split
  · rename_i same
    subst same
    simp [giveUser]
  · rename_i apart
    rw [AList.lookup_insert_ne (Ne.symm apart)]
    cases found : store.uidIndex.lookup uid with
    | none => rfl
    | some idx =>
        rw [Option.bind_some, Option.bind_some, List.getElem?_append_left (inRange.1 uid idx found)]

end Push

/-- What some accounts add to a store. -/
theorem foldl_pushUser (users : List UserRecord) (store : UserStore) (listed : Listed)
    (inRange : store.InRange) :
    let result := (users.foldl pushUser (store, listed)).1
    result.InRange ∧ result.groups = store.groups ∧
      result.users = store.users ++ assigned UserRecord.uid giveUser users listed ∧
      ∀ uid, result.lookupByUid uid =
        (((assigned UserRecord.uid giveUser users listed).filter (·.uid == uid)).getLast?).or
          (store.lookupByUid uid) := by
  induction users generalizing store listed with
  | nil => exact ⟨inRange, rfl, (List.append_nil _).symm, fun uid => rfl⟩
  | cons user rest ih =>
      obtain ⟨inRange', groups, users, lookup⟩ := ih (pushUser (store, listed) user).1 (listed.erase user.uid)
        (inRange_pushUser inRange)
      refine ⟨inRange', groups, ?_, fun uid => ?_⟩
      · exact users.trans (List.append_assoc ..)
      · refine (lookup uid).trans ?_
        rw [lookupByUid_pushUser inRange, assigned, List.filter_cons]
        by_cases same : user.uid = uid
        · subst same
          rw [if_pos rfl, if_pos (by simp [giveUser]), List.getLast?_cons]
          cases (assigned UserRecord.uid giveUser rest (listed.erase user.uid)).filter
            (·.uid == user.uid) |>.getLast? <;> rfl
        · rw [if_neg same, if_neg (by simpa [giveUser] using same)]

theorem foldl_pushGroup (groups : List GroupEntry) (store : UserStore) (listed : Listed) :
    (groups.foldl pushGroup (store, listed)).1 =
      { store with groups := store.groups ++ assigned GroupEntry.gid giveGroup groups listed } := by
  induction groups generalizing store listed with
  | nil => simp [assigned]
  | cons group rest ih =>
      rw [List.foldl_cons, pushGroup, ih, assigned]
      simp [giveGroup]

theorem inRange_empty : empty.InRange :=
  ⟨fun _ _ found => by simp [empty] at found, fun _ _ found => by simp [empty] at found⟩

section Loaded

variable (users : List UserRecord) (shadows : List ShadowEntry) (groups : List GroupEntry)
  (entries : List PermissionEntry)

/-- The accounts of an id in a loaded store. -/
theorem filter_users_ofRecords (uid : UInt32) :
    (ofRecords users shadows groups entries).users.filter (·.uid == uid) =
      giveFirst giveUser ((listed true entries).lookup uid) (users.filter (·.uid == uid)) := by
  have loaded := (foldl_pushUser users empty (listed true entries) inRange_empty).2.2.1
  rw [ofRecords, foldl_pushGroup]
  dsimp only
  rw [loaded]
  exact @filter_assigned _ UserRecord.uid giveUser (fun _ _ => rfl) users _ uid

/-- The last account of an id is found. -/
theorem lookupByUid_ofRecords (uid : UInt32) :
    (ofRecords users shadows groups entries).lookupByUid uid =
      ((ofRecords users shadows groups entries).users.filter (·.uid == uid)).getLast? := by
  have loaded := foldl_pushUser users empty (listed true entries) inRange_empty
  have found := loaded.2.2.2 uid
  rw [ofRecords, foldl_pushGroup]
  rw [lookupByUid] at found ⊢
  dsimp only
  rw [found, loaded.2.2.1]
  exact Option.or_none

theorem groups_ofRecords :
    (ofRecords users shadows groups entries).groups =
      assigned GroupEntry.gid giveGroup groups (listed false entries) := by
  have none := (foldl_pushUser users empty (listed true entries) inRange_empty).2.1
  rw [ofRecords, foldl_pushGroup]
  dsimp only
  rw [none]
  rfl

/-- The groups of an id in a loaded store. -/
theorem filter_groups_ofRecords (gid : UInt32) :
    (ofRecords users shadows groups entries).groups.filter (·.gid == gid) =
      giveFirst giveGroup ((listed false entries).lookup gid) (groups.filter (·.gid == gid)) := by
  rw [groups_ofRecords]
  exact @filter_assigned _ GroupEntry.gid giveGroup (fun _ _ => rfl) groups _ gid

end Loaded

end UserStore

end Rind
