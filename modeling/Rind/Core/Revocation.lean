import Rind.Core.Permissions
import Rind.Prog.Runs

/-!
# Revocations

A permission that was last revoked from a user is only held by way of the group
that holds it as such.  Changes for one user do not concern another.
-/

namespace Rind

/-! ## Overlays -/

namespace Overlay

variable (overlay : Overlay) (id other : UInt32) (perm : UInt16)

@[simp] theorem of_add_ne (apart : other ≠ id) : (overlay.add id perm).of other = overlay.of other := by
  rw [of, add, AList.lookup_insert_ne apart, of]

@[simp] theorem of_remove_ne (apart : other ≠ id) :
    (overlay.remove id perm).of other = overlay.of other := by
  rw [of, remove, AList.lookup_insert_ne apart, of]

@[simp] theorem of_add : (overlay.add id perm).of id = (overlay.of id).insert perm := by
  rw [of, add, AList.lookup_insert, Option.getD_some]

@[simp] theorem of_remove :
    (overlay.remove id perm).of id = (overlay.of id).filter (· != perm) := by
  rw [of, remove, AList.lookup_insert, Option.getD_some]

variable {overlay id other perm}

theorem has_iff : overlay.has id perm = true ↔ perm ∈ overlay.of id := List.contains_iff_mem

theorem has_add {added : UInt16} :
    (overlay.add id added).has other perm = true ↔
      other = id ∧ perm = added ∨ overlay.has other perm = true := by
  rw [has_iff, has_iff]
  by_cases same : other = id
  · subst same
    rw [of_add, List.mem_insert_iff]
    simp
  · rw [of_add_ne _ _ _ _ same]
    simp [same]

theorem has_remove {removed : UInt16} :
    (overlay.remove id removed).has other perm = true ↔
      ¬ (other = id ∧ perm = removed) ∧ overlay.has other perm = true := by
  rw [has_iff, has_iff]
  by_cases same : other = id
  · subst same
    rw [of_remove, List.mem_filter, bne_iff_ne]
    simp [and_comm]
  · rw [of_remove_ne _ _ _ _ same]
    simp [same]

end Overlay

/-! ## What answers depend on -/

namespace PermissionStore

variable {store other : PermissionStore}

/-- The users and links of two stores, and what lies over their groups, are the same. -/
structure SameGroups (store other : PermissionStore) : Prop where
  users : store.users = other.users
  links : store.inner.links = other.inner.links
  grants : store.inner.overlayGidGrants = other.inner.overlayGidGrants
  revokes : store.inner.overlayGidRevokes = other.inner.overlayGidRevokes

theorem SameGroups.groupHas (same : SameGroups store other) (fuel : Nat) (gid : UInt32)
    (perm : PermissionId) : store.groupHas fuel gid perm = other.groupHas fuel gid perm := by
  induction fuel generalizing perm with
  | zero => rfl
  | succ fuel ih =>
      have linked : store.groupHas fuel gid = other.groupHas fuel gid := funext ih
      rw [PermissionStore.groupHas, PermissionStore.groupHas, linksOf, linksOf, same.users, same.links,
        same.grants, same.revokes, linked]

theorem SameGroups.groupsHave (same : SameGroups store other) (fuel : Nat) (groups : List Ustr)
    (perm : PermissionId) :
    store.groupsHave fuel groups perm = other.groupsHave fuel groups perm := by
  simp only [PermissionStore.groupsHave, same.groupHas, same.users]

/-- What counts for one user is the same in two stores. -/
structure SameFor (uid : UInt32) (store other : PermissionStore) : Prop extends
    SameGroups store other where
  held : store.inner.groups = other.inner.groups
  granted : store.inner.overlayUidGrants.of uid = other.inner.overlayUidGrants.of uid
  revoked : store.inner.overlayUidRevokes.of uid = other.inner.overlayUidRevokes.of uid

theorem SameFor.userHas {uid : UInt32} (same : SameFor uid store other) (fuel : Nat)
    (perm : PermissionId) : store.userHas fuel uid perm = other.userHas fuel uid perm := by
  induction fuel generalizing perm with
  | zero => rfl
  | succ fuel ih =>
      have linked : store.userHas fuel uid = other.userHas fuel uid := funext ih
      simp only [PermissionStore.userHas, heldByGroup, linksOf, Overlay.has, same.groupsHave, same.users,
        same.links, same.held, same.granted, same.revoked, linked]
      rfl

/-- A grant to a user, or a revocation, does not concern another. -/
theorem sameFor_grantUser {uid user : UInt32} (apart : user ≠ uid) (perm : PermissionId) :
    SameFor user (store.grantUser uid perm) store :=
  ⟨⟨rfl, rfl, rfl, rfl⟩, rfl, Overlay.of_add_ne _ _ _ _ apart, Overlay.of_remove_ne _ _ _ _ apart⟩

theorem sameFor_ungrantUser {uid user : UInt32} (apart : user ≠ uid) (perm : PermissionId) :
    SameFor user (store.ungrantUser uid perm) store :=
  ⟨⟨rfl, rfl, rfl, rfl⟩, rfl, Overlay.of_remove_ne _ _ _ _ apart, Overlay.of_add_ne _ _ _ _ apart⟩

/-! ## Revoked permissions -/

/-- Whether a permission is revoked from a user. -/
def revoked (store : PermissionStore) (uid : UInt32) (perm : PermissionId) : Bool :=
  store.inner.overlayUidRevokes.has uid perm

/-- Whether a user is in the group that holds a permission as such. -/
def holdsByGroup (store : PermissionStore) (uid : UInt32) (perm : PermissionId) : Bool :=
  (store.users.lookupByUid uid).any fun user =>
    store.heldByGroup (store.users.groupsFor user) perm

/-- A revoked permission is held by way of its group or not at all. -/
theorem userHas_of_revoked {uid : UInt32} {perm : PermissionId} (user : uid ≠ 0) (known : perm ≠ 0)
    (revoked : store.revoked uid perm = true) (fuel : Nat) :
    store.userHas (fuel + 1) uid perm = some (store.holdsByGroup uid perm) := by
  rw [PermissionStore.revoked] at revoked
  rw [userHas, if_neg (by simp [user, known]), holdsByGroup]
  cases store.users.lookupByUid uid with
  | none => rfl
  | some user =>
      cases held : store.heldByGroup (store.users.groupsFor user) perm <;> simp [held, revoked]

end PermissionStore

/-- Whether an operation grants a permission to a user or revokes it. -/
def PermissionOp.sets (uid : UInt32) (perm : PermissionId) : PermissionOp → Bool
  | .grantUser user granted => user == uid && granted == perm
  | .ungrantUser user revoked => user == uid && revoked == perm
  | _ => false

namespace PermissionStore

variable {store : PermissionStore} {uid : UInt32} {perm : PermissionId}

@[simp] theorem revoked_ungrantUser : (store.ungrantUser uid perm).revoked uid perm = true :=
  Overlay.has_add.mpr (.inl ⟨rfl, rfl⟩)

/-- A revocation lasts through every operation that is not about the two. -/
theorem revoked_apply {op : PermissionOp} (apart : op.sets uid perm = false)
    (revoked : store.revoked uid perm = true) : (store.apply op).revoked uid perm = true := by
  cases op with
  | grantUser user granted =>
      refine Overlay.has_remove.mpr ⟨?_, revoked⟩
      rintro ⟨rfl, rfl⟩
      simp [PermissionOp.sets] at apart
  | ungrantUser user other => exact Overlay.has_add.mpr (.inr revoked)
  | link perm parent =>
      rw [apply, link]
      split
      · exact revoked
      · exact revoked
  | grantGroup | ungrantGroup | orGroup => exact revoked

/-- A revocation that no later operation is about lasts to the end. -/
theorem revoked_run (before : List PermissionOp) {after : List PermissionOp}
    (last : ∀ op ∈ after, op.sets uid perm = false) :
    (Runs.run apply store (before ++ .ungrantUser uid perm :: after)).revoked uid perm = true := by
  rw [Runs.run_append, Runs.run_cons]
  have along : Runs.Along apply (fun _ op => op.sets uid perm = false)
      ((Runs.run apply store before).ungrantUser uid perm) after := .of_forall last
  have keeps : ∀ (store : PermissionStore) (op : PermissionOp),
      store.revoked uid perm = true → op.sets uid perm = false →
        (store.apply op).revoked uid perm = true :=
    fun _ _ revoked apart => revoked_apply apart revoked
  exact along.invariant keeps revoked_ungrantUser

end PermissionStore

/-! ## Revocation as such -/

/-- A user that a permission was last revoked from holds it only as a member of
the group that holds it as such, and no grant or revocation changes what another
user holds. -/
theorem revocation_lasts (store : PermissionStore) (uid : UInt32) (perm : PermissionId) :
    (uid ≠ 0 → perm ≠ 0 → ∀ before after : List PermissionOp,
      (∀ op ∈ after, op.sets uid perm = false) →
      let final := Runs.run PermissionStore.apply store (before ++ .ungrantUser uid perm :: after)
      ∀ fuel, final.userHas (fuel + 1) uid perm = some (final.holdsByGroup uid perm)) ∧
    ∀ user, user ≠ uid → ∀ fuel other,
      (store.grantUser uid perm).userHas fuel user other = store.userHas fuel user other ∧
      (store.ungrantUser uid perm).userHas fuel user other = store.userHas fuel user other := by
  constructor
  · intro user known before after last
    exact PermissionStore.userHas_of_revoked user known (PermissionStore.revoked_run before last)
  · intro user apart fuel other
    exact ⟨(PermissionStore.sameFor_grantUser apart perm).userHas fuel other,
      (PermissionStore.sameFor_ungrantUser apart perm).userHas fuel other⟩

/-- Two accounts and the group of both. -/
def networkUsers : UserStore :=
  .ofRecords
    [⟨"makano", 1000, 2000, "makano", "/home/makano", "/bin/sh", []⟩,
      ⟨"root", 0, 0, "root", "/root", "/bin/sh", []⟩]
    [] [⟨"network", 2000, ["makano"], []⟩] []

theorem revocation_lasts_network :
    let store := (PermissionStore.new networkUsers).orGroup 1003 "network"
    let final := Runs.run PermissionStore.apply store
      ([.grantUser 1000 1002] ++ .ungrantUser 1000 1002 :: [.link 1002 1003])
    final.userHas 3 1000 1002 = some false ∧
      (store.grantUser 0 1002).userHas 3 1000 1002 = store.userHas 3 1000 1002 := by
  intro store final
  have lasts := revocation_lasts store 1000 1002
  constructor
  · rw [lasts.1 (by decide) (by decide) _ _ (by decide)]
    decide +kernel
  · exact ((revocation_lasts store 0 1002).2 1000 (by decide) 3 1002).1

/-- A revocation does not reach a member of the group that holds the permission. -/
theorem not_revocation_lasts_network :
    (Runs.run PermissionStore.apply ((PermissionStore.new networkUsers).orGroup 1003 "network")
      [.ungrantUser 1000 1003]).userHas 1 1000 1003 = some true := by
  decide +kernel

end Rind
