import Rind.Core.Restoring

/-!
# What survives a restart

A store answers as before once its permissions were written and loaded again, if
no revocation and no lost grant was all that decided an answer.
-/

namespace Rind.PermissionStore

open Fuel

/-- The store over accounts that were loaded again, with the same links and
permission groups. -/
def reloaded (store : PermissionStore) (users : UserStore) : PermissionStore :=
  let fresh := new users
  { fresh with
    inner := { fresh.inner with links := store.inner.links, groups := store.inner.groups } }

section Sources

variable (store : PermissionStore)

/-- What is answered whatever a user was given itself. -/
def atOnce (uid : UInt32) (perm : PermissionId) : Option Bool :=
  if uid = 0 ∨ perm = 0 then some true
  else
    match store.users.lookupByUid uid with
    | none => some false
    | some user => if store.heldByGroup (store.users.groupsFor user) perm then some true else none

def granted (uid : UInt32) (perm : PermissionId) : Bool := store.inner.overlayUidGrants.has uid perm

/-- Whether the file gave a permission to a user. -/
def given (uid : UInt32) (perm : PermissionId) : Bool :=
  (store.users.lookupByUid uid).any (·.permissions.contains perm)

def groupGranted (gid : UInt32) (perm : PermissionId) : Bool :=
  store.inner.overlayGidGrants.has gid perm

def groupRevoked (gid : UInt32) (perm : PermissionId) : Bool :=
  store.inner.overlayGidRevokes.has gid perm

def groupGiven (gid : UInt32) (perm : PermissionId) : Bool :=
  (store.users.group gid).any (·.permissions.contains perm)

/-- Nothing is both granted and revoked. -/
structure Disjoint : Prop where
  user : ∀ uid perm, store.granted uid perm = true → store.revoked uid perm = false
  group : ∀ gid perm, store.groupGranted gid perm = true → store.groupRevoked gid perm = false

/-- No permission that was revoked is available in another way, and each one is that
is lost since several accounts or groups share an id. -/
structure Restorable : Prop where
  revoked : ∀ uid perm, store.atOnce uid perm = none → store.revoked uid perm = true →
    ¬ store.HoldsOtherwise uid perm
  shared : ∀ uid perm, store.atOnce uid perm = none → store.users.sharedUid uid = true →
    store.granted uid perm = true → store.HoldsOtherwise uid perm
  groupRevoked : ∀ gid perm, (store.users.group gid).isSome = true →
    store.groupRevoked gid perm = true → ¬ store.GroupHoldsLinked gid perm
  groupShared : ∀ gid perm, store.users.sharedGid gid = true →
    store.inner.overlayGidGrants.of gid ≠ [] → store.groupGiven gid perm = true →
    store.groupRevoked gid perm = false → store.groupGranted gid perm = false →
    store.GroupHoldsLinked gid perm

end Sources

variable {store : PermissionStore}

/-! ## Both stores -/

theorem userDirect_eq (uid : UInt32) (perm : PermissionId) :
    store.userDirect uid perm = (store.atOnce uid perm).or
      (if store.revoked uid perm then some false
        else if store.given uid perm || store.granted uid perm then some true else none) := by
  rw [userDirect, atOnce, given, granted, PermissionStore.revoked]
  split
  · rfl
  · cases store.users.lookupByUid uid with
    | none => rfl
    | some user =>
        dsimp only
        split
        · rfl
        · rfl

theorem groupDirect_eq (gid : UInt32) (perm : PermissionId) :
    store.groupDirect gid perm =
      if (store.users.group gid).isSome then
        if store.groupRevoked gid perm then some false
        else if store.groupGiven gid perm || store.groupGranted gid perm then some true else none
      else some false := by
  rw [groupDirect, groupRevoked, groupGiven, groupGranted]
  cases store.users.group gid <;> rfl

theorem atOnce_eq (uid : UInt32) (perm : PermissionId) :
    store.atOnce uid perm = if uid = 0 ∨ perm = 0 then some true
      else (store.users.lookupByUid uid).elim (some false) fun user =>
        if store.heldByGroup (store.users.groupsFor user) perm then some true else none := by
  rw [atOnce]
  cases store.users.lookupByUid uid <;> rfl

/-- What a known group holds. -/
theorem LinksAcyclic.groupHolds_of_isSome (acyclic : store.LinksAcyclic) {gid : UInt32}
    (known : (store.users.group gid).isSome = true) (perm : PermissionId) :
    store.GroupHolds gid perm ↔ store.groupRevoked gid perm = false ∧
      ((store.groupGiven gid perm || store.groupGranted gid perm) = true ∨
        store.GroupHoldsLinked gid perm) := by
  rw [acyclic.groupHolds_iff, groupDirect_eq, if_pos known]
  cases store.groupRevoked gid perm with
  | true => simp
  | false => cases store.groupGiven gid perm || store.groupGranted gid perm <;> simp

/-- What a user holds that is not answered at once. -/
theorem LinksAcyclic.userHolds_of_none (acyclic : store.LinksAcyclic) {uid : UInt32}
    {perm : PermissionId} (atOnce : store.atOnce uid perm = none) :
    store.UserHolds uid perm ↔ store.revoked uid perm = false ∧
      ((store.given uid perm || store.granted uid perm) = true ∨ store.HoldsOtherwise uid perm) := by
  rw [acyclic.userHolds_iff, userDirect_eq, atOnce, Option.none_or]
  cases store.revoked uid perm with
  | true => simp
  | false => cases store.given uid perm || store.granted uid perm <;> simp

/-- The store after a restart, compared with the one before. -/
structure Restarted (store again : PermissionStore) : Prop where
  linksOf : again.linksOf = store.linksOf
  groupsOf : again.groupsOf = store.groupsOf
  gidByName : ∀ name, (again.users.groupByName name).map GroupEntry.gid =
    (store.users.groupByName name).map GroupEntry.gid
  atOnce : again.atOnce = store.atOnce
  known : ∀ gid, (again.users.group gid).isSome = (store.users.group gid).isSome
  revoked : ∀ uid perm, again.revoked uid perm = false
  groupRevoked : ∀ gid perm, again.groupRevoked gid perm = false
  disjoint : store.Disjoint
  bare : ∀ uid perm, store.users.sharedUid uid = true → store.given uid perm = false
  user : ∀ uid perm, store.atOnce uid perm = none →
    ((again.given uid perm || again.granted uid perm) = true ↔ store.users.sharedUid uid = false ∧
      (store.granted uid perm = true ∨ store.given uid perm = true ∧ store.revoked uid perm = false))
  group : ∀ gid perm, (store.users.group gid).isSome = true →
    ((again.groupGiven gid perm || again.groupGranted gid perm) = true ↔
      store.groupGranted gid perm = true ∨
        store.groupGiven gid perm = true ∧ store.groupRevoked gid perm = false ∧
          (store.users.sharedGid gid = false ∨ store.inner.overlayGidGrants.of gid = []))

namespace Restarted

variable {again : PermissionStore}

theorem acyclic (restarted : Restarted store again) (acyclic : store.LinksAcyclic) :
    again.LinksAcyclic := by
  rw [LinksAcyclic, restarted.linksOf]
  exact acyclic

/-- One group and one permission. -/
theorem groupHolds_iff (restarted : Restarted store again) (acyclic : store.LinksAcyclic)
    {gid : UInt32} {perm : PermissionId}
    (linked : store.GroupHoldsLinked gid perm ↔ again.GroupHoldsLinked gid perm) :
    (store.GroupHolds gid perm ↔ again.GroupHolds gid perm) ↔
      ((store.users.group gid).isSome = true → store.groupRevoked gid perm = true →
        ¬ store.GroupHoldsLinked gid perm) ∧
      (store.users.sharedGid gid = true → store.inner.overlayGidGrants.of gid ≠ [] →
        store.groupGiven gid perm = true → store.groupRevoked gid perm = false →
        store.groupGranted gid perm = false → store.GroupHoldsLinked gid perm) := by
  cases known : (store.users.group gid).isSome with
  | false =>
      have missing : store.users.group gid = none := Option.isNone_iff_eq_none.mp (by simpa using known)
      have missing' : again.users.group gid = none :=
        Option.isNone_iff_eq_none.mp (by simpa using (restarted.known gid).trans known)
      rw [acyclic.groupHolds_iff, (restarted.acyclic acyclic).groupHolds_iff, groupDirect, groupDirect,
        missing, missing', groupGiven, missing]
      simp
  | true =>
      have disjoint := restarted.disjoint.group gid perm
      rw [acyclic.groupHolds_of_isSome known,
        (restarted.acyclic acyclic).groupHolds_of_isSome ((restarted.known gid).trans known),
        restarted.groupRevoked, restarted.group gid perm known, ← linked]
      grind

/-- One user and one permission. -/
theorem userHolds_iff (restarted : Restarted store again) (acyclic : store.LinksAcyclic)
    {uid : UInt32} {perm : PermissionId}
    (otherwise : store.HoldsOtherwise uid perm ↔ again.HoldsOtherwise uid perm) :
    (store.UserHolds uid perm ↔ again.UserHolds uid perm) ↔
      (store.atOnce uid perm = none → store.revoked uid perm = true →
        ¬ store.HoldsOtherwise uid perm) ∧
      (store.atOnce uid perm = none → store.users.sharedUid uid = true →
        store.granted uid perm = true → store.HoldsOtherwise uid perm) := by
  cases atOnce : store.atOnce uid perm with
  | some answer =>
      have atOnce' : again.atOnce uid perm = some answer := by rw [restarted.atOnce, atOnce]
      rw [acyclic.userHolds_iff, (restarted.acyclic acyclic).userHolds_iff, userDirect_eq,
        userDirect_eq, atOnce, atOnce']
      simp
  | none =>
      have atOnce' : again.atOnce uid perm = none := by rw [restarted.atOnce, atOnce]
      have disjoint := restarted.disjoint.user uid perm
      have bare := restarted.bare uid perm
      rw [acyclic.userHolds_of_none atOnce, (restarted.acyclic acyclic).userHolds_of_none atOnce',
        restarted.revoked, restarted.user uid perm atOnce, ← otherwise]
      grind

/-- A store answers after the restart as before exactly if it is restorable. -/
theorem sameAnswers_iff (restarted : Restarted store again) (acyclic : store.LinksAcyclic) :
    SameAnswers store again ↔ store.Restorable := by
  have linked (gid : UInt32) (perm : PermissionId)
      (below : ∀ linked ∈ store.linksOf perm,
        (store.GroupHolds gid linked ↔ again.GroupHolds gid linked)) :
      store.GroupHoldsLinked gid perm ↔ again.GroupHoldsLinked gid perm := by
    rw [GroupHoldsLinked, GroupHoldsLinked, restarted.linksOf]
    exact exists_congr fun linked => and_congr_right fun member => below linked member
  have otherwise (uid : UInt32) (perm : PermissionId)
      (groups : ∀ gid, store.GroupHolds gid perm ↔ again.GroupHolds gid perm)
      (below : ∀ linked ∈ store.linksOf perm,
        (store.UserHolds uid linked ↔ again.UserHolds uid linked)) :
      store.HoldsOtherwise uid perm ↔ again.HoldsOtherwise uid perm := by
    rw [HoldsOtherwise, HoldsOtherwise, GroupsHold, GroupsHold, restarted.linksOf, restarted.groupsOf]
    simp only [restarted.gidByName, groups]
    exact or_congr_right (exists_congr fun linked => and_congr_right fun member => below linked member)
  rw [PermissionStore.sameAnswers_iff acyclic (restarted.acyclic acyclic)]
  constructor
  · rintro ⟨users, groups⟩
    have user (uid : UInt32) (perm : PermissionId) := (restarted.userHolds_iff acyclic
      (otherwise uid perm (groups · perm) fun linked _ => users uid linked)).mp (users uid perm)
    have group (gid : UInt32) (perm : PermissionId) := (restarted.groupHolds_iff acyclic
      (linked gid perm fun linked _ => groups gid linked)).mp (groups gid perm)
    exact ⟨fun uid perm => (user uid perm).1, fun uid perm => (user uid perm).2,
      fun gid perm => (group gid perm).1, fun gid perm => (group gid perm).2⟩
  · intro restorable
    have groups : ∀ gid perm, store.GroupHolds gid perm ↔ again.GroupHolds gid perm := by
      intro gid perm
      induction perm using acyclic.induction with
      | step perm ih =>
          exact (restarted.groupHolds_iff acyclic (linked gid perm ih)).mpr
            ⟨restorable.groupRevoked gid perm, restorable.groupShared gid perm⟩
    refine ⟨fun uid perm => ?_, groups⟩
    induction perm using acyclic.induction with
    | step perm ih =>
        exact (restarted.userHolds_iff acyclic (otherwise uid perm (groups · perm) ih)).mpr
          ⟨restorable.revoked uid perm, restorable.shared uid perm⟩

end Restarted

/-! ## Grants and revocations -/

theorem disjoint_new (users : UserStore) : (new users).Disjoint :=
  ⟨fun _ _ granted => (nomatch granted), fun _ _ granted => (nomatch granted)⟩

theorem disjoint_apply (op : PermissionOp) (disjoint : store.Disjoint) : (store.apply op).Disjoint := by
  have apart {grants revokes : Overlay} {id : UInt32} {perm : PermissionId}
      (before : ∀ id perm, grants.has id perm = true → revokes.has id perm = false)
      (other : UInt32) (other' : PermissionId) :
      ((grants.add id perm).has other other' = true → (revokes.remove id perm).has other other' = false) ∧
      ((grants.remove id perm).has other other' = true → (revokes.add id perm).has other other' = false) := by
    have := before other other'
    simp only [← Bool.not_eq_true, Overlay.has_add, Overlay.has_remove] at this ⊢
    tauto
  cases op with
  | grantUser uid perm =>
      exact ⟨fun other other' => (apart disjoint.user other other').1, disjoint.group⟩
  | ungrantUser uid perm =>
      exact ⟨fun other other' => (apart disjoint.user other other').2, disjoint.group⟩
  | grantGroup gid perm =>
      exact ⟨disjoint.user, fun other other' => (apart disjoint.group other other').1⟩
  | ungrantGroup gid perm =>
      exact ⟨disjoint.user, fun other other' => (apart disjoint.group other other').2⟩
  | link perm parent =>
      rw [apply, link]
      split
      · exact disjoint
      · exact ⟨disjoint.user, disjoint.group⟩
  | orGroup perm group => exact ⟨disjoint.user, disjoint.group⟩

theorem users_apply (store : PermissionStore) (op : PermissionOp) :
    (store.apply op).users = store.users := by
  cases op with
  | link perm parent =>
      rw [apply, link]
      split <;> rfl
  | grantUser | ungrantUser | grantGroup | ungrantGroup | orGroup => rfl

end Rind.PermissionStore

namespace Rind

open PermissionStore

theorem groupsFor_congr {store other : UserStore} {user user' : UserRecord}
    (groups : store.groups.map UserStore.bareGroup = other.groups.map UserStore.bareGroup)
    (same : UserStore.bareUser user = UserStore.bareUser user') :
    store.groupsFor user = other.groupsFor user' := by
  have bare (store : UserStore) (user : UserRecord) : store.groupsFor user =
      ({ store with groups := store.groups.map UserStore.bareGroup }).groupsFor
        (UserStore.bareUser user) := by
    simp only [UserStore.groupsFor, List.find?_map, List.foldl_map, Option.map_map]
    rfl
  rw [bare store, bare other, groups, same]
  rfl

theorem gid_groupByName_congr {store other : UserStore}
    (groups : store.groups.map UserStore.bareGroup = other.groups.map UserStore.bareGroup)
    (name : Ustr) :
    (store.groupByName name).map GroupEntry.gid = (other.groupByName name).map GroupEntry.gid := by
  have bare (store : UserStore) : (store.groupByName name).map GroupEntry.gid =
      ((store.groups.map UserStore.bareGroup).find? (·.name == name)).map GroupEntry.gid := by
    rw [UserStore.groupByName, List.find?_map, Option.map_map]
    rfl
  rw [bare, bare, groups]

section Loaded

variable {store : PermissionStore} {again : UserStore}

theorem restarted_of_survives (disjoint : store.Disjoint)
    (survives : store.users.Survives again store.inner.overlayUidGrants
      store.inner.overlayUidRevokes store.inner.overlayGidGrants store.inner.overlayGidRevokes) :
    Restarted store (store.reloaded again) := by
  have none (id : UInt32) (perm : UInt16) : (∅ : Overlay).has id perm = false := rfl
  constructor
  case linksOf => rfl
  case groupsOf =>
    funext uid
    have same := survives.account uid
    simp only [groupsOf, reloaded, new]
    cases found : store.users.lookupByUid uid <;> cases found' : again.lookupByUid uid <;>
      simp only [found, found', Option.map_none, Option.map_some, reduceCtorEq, Option.some.injEq] at same
    · rfl
    · exact (groupsFor_congr survives.groups same).symm
  case gidByName => exact fun name => (gid_groupByName_congr survives.groups name).symm
  case atOnce =>
    funext uid perm
    have same := survives.account uid
    rw [atOnce_eq, atOnce_eq]
    refine ite_congr rfl (fun _ => rfl) fun _ => ?_
    change (again.lookupByUid uid).elim (some false) _ = _
    cases found : store.users.lookupByUid uid <;> cases found' : again.lookupByUid uid <;>
      simp only [found, found', Option.map_none, Option.map_some, reduceCtorEq, Option.some.injEq] at same
    · rfl
    · rw [Option.elim_some, Option.elim_some, groupsFor_congr survives.groups same]
      rfl
  case known => exact fun gid => (survives.known gid).symm
  case revoked => exact fun uid perm => none uid perm
  case groupRevoked => exact fun gid perm => none gid perm
  case disjoint => exact disjoint
  case bare =>
    intro uid perm shared
    rw [given]
    cases found : store.users.lookupByUid uid with
    | none => rfl
    | some user => simp [survives.bare uid user found shared]
  case user =>
    intro uid perm open'
    obtain ⟨user, found⟩ : ∃ user, store.users.lookupByUid uid = some user := by
      rw [atOnce] at open'
      cases found : store.users.lookupByUid uid with
      | none =>
          rw [found] at open'
          split at open' <;> cases open'
      | some user => exact ⟨user, rfl⟩
    obtain ⟨user', found'⟩ : ∃ user', again.lookupByUid uid = some user' := by
      have same := survives.account uid
      cases found' : again.lookupByUid uid with
      | none => simp [found, found'] at same
      | some user' => exact ⟨user', rfl⟩
    have kept := survives.user uid user found user' found' perm
    have given' : (store.reloaded again).given uid perm = user'.permissions.contains perm := by
      simp [given, reloaded, new, found']
    have granted' : (store.reloaded again).granted uid perm = false := none uid perm
    rw [given', granted', Bool.or_false, List.contains_iff_mem, kept]
    simp [given, granted, PermissionStore.revoked, Overlay.has, found]
  case group =>
    intro gid perm known
    obtain ⟨group, found⟩ := Option.isSome_iff_exists.mp known
    obtain ⟨group', found'⟩ := Option.isSome_iff_exists.mp ((survives.known gid).symm.trans known)
    have kept := survives.group gid group found group' found' perm
    have given' : (store.reloaded again).groupGiven gid perm = group'.permissions.contains perm := by
      simp [groupGiven, reloaded, new, found']
    have granted' : (store.reloaded again).groupGranted gid perm = false := none gid perm
    rw [given', granted', Bool.or_false, List.contains_iff_mem, kept]
    simp [groupGiven, groupGranted, PermissionStore.groupRevoked, Overlay.has, found]

end Loaded

/-! ## Over the files -/

theorem permissions_fromPasswdLine {line : String} {user : UserRecord}
    (read : UserRecord.fromPasswdLine line = some user) : user.permissions = [] := by
  rw [UserRecord.fromPasswdLine] at read
  split at read
  · obtain ⟨uid, -, read⟩ := Option.bind_eq_some_iff.mp read
    obtain ⟨gid, -, read⟩ := Option.bind_eq_some_iff.mp read
    cases read
    rfl
  · cases read

theorem permissions_fromGroupLine {line : String} {group : GroupEntry}
    (read : GroupEntry.fromGroupLine line = some group) : group.permissions = [] := by
  rw [GroupEntry.fromGroupLine] at read
  split at read
  · obtain ⟨gid, -, read⟩ := Option.bind_eq_some_iff.mp read
    cases read
    rfl
  · cases read

theorem bare_records (passwd group : Except String String) :
    UserStore.Bare (UserStore.records UserRecord.fromPasswdLine passwd)
      (UserStore.records GroupEntry.fromGroupLine group) := by
  constructor
  · intro user member
    cases passwd with
    | error error => cases member
    | ok text =>
        obtain ⟨line, -, read⟩ := List.mem_filterMap.mp member
        exact permissions_fromPasswdLine read
  · intro entry member
    cases group with
    | error error => cases member
    | ok text =>
        obtain ⟨line, -, read⟩ := List.mem_filterMap.mp member
        exact permissions_fromGroupLine read

theorem load_eq_ok {files : UserFiles} {users : UserStore} (loaded : UserStore.load files = .ok users) :
    ∃ entries, UserStore.permissionEntries files = .ok entries ∧ (∃ text, files.passwd = .ok text) ∧
      users = UserStore.ofRecords (UserStore.records UserRecord.fromPasswdLine files.passwd)
        (UserStore.records ShadowEntry.fromShadowLine files.shadow)
        (UserStore.records GroupEntry.fromGroupLine files.group) entries := by
  rw [UserStore.load] at loaded
  obtain ⟨entries, read, loaded⟩ := bind_eq_ok.mp loaded
  refine ⟨entries, read, ?_⟩
  cases passwd : files.passwd with
  | error error =>
      rw [passwd] at loaded
      cases loaded
  | ok text =>
      rw [passwd] at loaded
      cases loaded
      exact ⟨⟨text, rfl⟩, rfl⟩

/-- After any grants, revocations, links and permission groups: what was written and
is loaded again answers as before exactly if the store is restorable. -/
theorem permissions_restored_iff (files : UserFiles) (users : UserStore) (ops : List PermissionOp)
    (path : String) (outcome : Except String Unit) (bytes : List UInt8)
    (loaded : UserStore.load files = .ok users)
    (written : (Runs.run PermissionStore.apply (.new users) ops).writePermsWithOverlay path outcome =
      .ok bytes)
    (acyclic : (Runs.run PermissionStore.apply (.new users) ops).LinksAcyclic) :
    ∃ again, UserStore.load { files with perms := some (.ok bytes) } = .ok again ∧
      (SameAnswers (Runs.run PermissionStore.apply (.new users) ops)
          ((Runs.run PermissionStore.apply (.new users) ops).reloaded again) ↔
        (Runs.run PermissionStore.apply (.new users) ops).Restorable) := by
  have accounts : (Runs.run PermissionStore.apply (.new users) ops).users = users := by
    have keeps : ∀ (store : PermissionStore) (op : PermissionOp), store.users = users →
        (store.apply op).users = users := fun store op same => (users_apply store op).trans same
    exact Runs.run_invariant keeps ops rfl
  have disjoint : (Runs.run PermissionStore.apply (.new users) ops).Disjoint :=
    Runs.run_invariant (fun _ op => disjoint_apply op) ops (disjoint_new users)
  generalize Runs.run PermissionStore.apply (.new users) ops = store at *
  obtain ⟨entries, read, ⟨text, passwd⟩, loaded⟩ := load_eq_ok loaded
  rw [← accounts] at loaded
  have again : UserStore.load { files with perms := some (.ok bytes) } =
      .ok (UserStore.ofRecords (UserStore.records UserRecord.fromPasswdLine files.passwd)
        (UserStore.records ShadowEntry.fromShadowLine files.shadow)
        (UserStore.records GroupEntry.fromGroupLine files.group)
        (store.users.writtenEntries store.inner.overlayUidGrants store.inner.overlayUidRevokes
          store.inner.overlayGidGrants store.inner.overlayGidRevokes)) := by
    rw [UserStore.load, UserStore.permissionEntries]
    dsimp only
    rw [UserStore.readEntries_writePerms written, passwd]
    rfl
  have survives : store.users.Survives _ store.inner.overlayUidGrants store.inner.overlayUidRevokes
      store.inner.overlayGidGrants store.inner.overlayGidRevokes :=
    loaded ▸ UserStore.survives_rewritten (bare_records files.passwd files.group)
  rw [loaded] at again
  exact ⟨_, again, (restarted_of_survives disjoint survives).sameAnswers_iff acyclic⟩

/-- An account and its group, which has the permission 5. -/
def wheelFiles : UserFiles where
  passwdPath := "/etc/passwd"
  passwd := .ok "makano:x:1000:2000:makano:/home/makano:/bin/sh\n"
  shadow := .ok ""
  group := .ok "wheel:x:2000:makano\n"
  perms := some (.ok [1, 0xD0, 0x07, 0, 0, 1, 0, 5, 0])

def wheelUsers : UserStore :=
  .ofRecords [⟨"makano", 1000, 2000, "makano", "/home/makano", "/bin/sh", []⟩] []
    [⟨"wheel", 2000, ["makano"], []⟩] [⟨false, 2000, [5]⟩]

theorem load_wheelFiles : UserStore.load wheelFiles = .ok wheelUsers := by
  have entries : UserStore.permissionEntries wheelFiles = .ok [⟨false, 2000, [5]⟩] := by decide +kernel
  have users : UserStore.records UserRecord.fromPasswdLine wheelFiles.passwd =
      [⟨"makano", 1000, 2000, "makano", "/home/makano", "/bin/sh", []⟩] := by decide +kernel
  have shadows : UserStore.records ShadowEntry.fromShadowLine wheelFiles.shadow = [] := by decide +kernel
  have groups : UserStore.records GroupEntry.fromGroupLine wheelFiles.group =
      [⟨"wheel", 2000, ["makano"], []⟩] := by decide +kernel
  rw [UserStore.load, entries, users, shadows, groups]
  rfl

theorem permissions_restored_iff_wheel :
    ∃ again, UserStore.load { wheelFiles with perms := some (.ok
        [0, 0xE8, 0x03, 0, 0, 1, 0, 7, 0, 1, 0xD0, 0x07, 0, 0, 1, 0, 5, 0]) } = .ok again ∧
      (SameAnswers (Runs.run PermissionStore.apply (.new wheelUsers) [.grantUser 1000 7])
          ((Runs.run PermissionStore.apply (.new wheelUsers) [.grantUser 1000 7]).reloaded again) ↔
        (Runs.run PermissionStore.apply (.new wheelUsers) [.grantUser 1000 7]).Restorable) := by
  refine permissions_restored_iff wheelFiles wheelUsers [.grantUser 1000 7] "/etc/rperms" (.ok ()) _
    load_wheelFiles (by decide +kernel) ?_
  intro perm cycle
  obtain ⟨linked, -, last⟩ := Relation.TransGen.tail'_iff.mp cycle
  cases last

/-- Whether a user holds a permission before and after a restart. -/
def heldOverRestart (files : UserFiles) (ops : List PermissionOp) (uid : UInt32)
    (perm : PermissionId) : Except CoreError (Option Bool × Option Bool) := do
  let users ← UserStore.load files
  let store := Runs.run PermissionStore.apply (.new users) ops
  let bytes ← store.writePermsWithOverlay "/etc/rperms" (.ok ())
  let again ← UserStore.load { files with perms := some (.ok bytes) }
  .ok (store.userHas 2 uid perm, (store.reloaded again).userHas 2 uid perm)

/-- A permission that was revoked from a user is held by way of its group again, and
one that was granted is lost where another account has the id. -/
theorem not_permissions_restored :
    heldOverRestart wheelFiles [.ungrantUser 1000 5] 1000 5 = .ok (some false, some true) ∧
    heldOverRestart
      { wheelFiles with passwd := .ok "makano:x:1000:100::/:/bin/sh\ntoor:x:1000:100::/:/bin/sh\n" }
      [.grantUser 1000 7] 1000 7 = .ok (some true, some false) := by
  decide +kernel

end Rind
