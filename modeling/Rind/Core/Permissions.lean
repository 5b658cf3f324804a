import Rind.Core.UserStore

/-!
# Permissions

Whether a user or a group holds a permission.  Grants and revocations at run
time lie over what the files give, a permission can be linked to others that
imply it, and a group of the system can hold a permission as such.
-/

namespace Rind

abbrev PermissionId : Type := UInt16

structure PermissionStoreInner where
  overlayUidGrants : Overlay
  overlayUidRevokes : Overlay
  overlayGidGrants : Overlay
  overlayGidRevokes : Overlay
  links : AList fun _ : UInt16 => List UInt16
  groups : AList fun _ : UInt16 => Ustr

inductive PermissionExpr where
  | all
  | any (exprs : List PermissionExpr)
  | exact (exprs : List PermissionExpr)
  | group (name : Ustr)
  | perm (id : PermissionId)
  | rootOnly

structure PermissionStore where
  inner : PermissionStoreInner
  byId : AList fun _ : UInt16 => Ustr
  byName : AList fun _ : Ustr => UInt16
  users : UserStore

namespace PermissionStore

def new (users : UserStore) : PermissionStore := ⟨⟨∅, ∅, ∅, ∅, ∅, ∅⟩, ∅, ∅, users⟩

variable (store : PermissionStore)

/-- The permissions linked to one, in the order they are tried. -/
def linksOf (perm : PermissionId) : List UInt16 := (store.inner.links.lookup perm).getD []

/-- Whether the group of that id holds a permission. The links may be cyclic, so
that there is no answer whatever the fuel. -/
def groupHas : (fuel : Nat) → (gid : UInt32) → PermissionId → Option Bool
  | 0, _, _ => none
  | fuel + 1, gid, perm =>
      match store.users.group gid with
      | none => some false
      | some group =>
          if store.inner.overlayGidRevokes.has gid perm then some false
          else if group.permissions.contains perm || store.inner.overlayGidGrants.has gid perm then
            some true
          else (store.linksOf perm).anyM (groupHas fuel gid)

/-- Whether some of the groups of that names holds a permission. -/
def groupsHave (fuel : Nat) (groups : List Ustr) (perm : PermissionId) : Option Bool :=
  groups.anyM fun name =>
    match store.users.groupByName name with
    | some group => store.groupHas fuel group.gid perm
    | none => some false

/-- Whether a permission belongs to one of the groups as such. -/
def heldByGroup (groups : List Ustr) (perm : PermissionId) : Bool :=
  (store.inner.groups.lookup perm).any groups.contains

/-- Whether the user of that id holds a permission. -/
def userHas : (fuel : Nat) → (uid : UInt32) → PermissionId → Option Bool
  | 0, _, _ => none
  | fuel + 1, uid, perm =>
      if uid = 0 ∨ perm = 0 then some true
      else
        match store.users.lookupByUid uid with
        | none => some false
        | some user =>
            let groups := store.users.groupsFor user
            if store.heldByGroup groups perm then some true
            else if store.inner.overlayUidRevokes.has uid perm then some false
            else if user.permissions.contains perm || store.inner.overlayUidGrants.has uid perm then
              some true
            else do
              if ← store.groupsHave fuel groups perm then some true
              else (store.linksOf perm).anyM (userHas fuel uid)

mutual

def evalExpr (fuel : Nat) (uid : UInt32) (groups : List Ustr) : PermissionExpr → Option Bool
  | .all => some true
  | .perm id => store.userHas fuel uid id
  | .group name => some (groups.contains name)
  | .any exprs => evalAny fuel uid groups exprs
  | .exact exprs => evalExact fuel uid groups exprs
  | .rootOnly => some (uid == 0)

def evalAny (fuel : Nat) (uid : UInt32) (groups : List Ustr) : List PermissionExpr → Option Bool
  | [] => some false
  | expr :: exprs => do
      if ← evalExpr fuel uid groups expr then some true else evalAny fuel uid groups exprs

def evalExact (fuel : Nat) (uid : UInt32) (groups : List Ustr) : List PermissionExpr → Option Bool
  | [] => some true
  | expr :: exprs => do
      if ← evalExpr fuel uid groups expr then evalExact fuel uid groups exprs else some false

end

def userCheck (fuel : Nat) (uid : UInt32) (expr : PermissionExpr) : Option Bool :=
  if uid = 0 then some true
  else
    match store.users.lookupByUid uid with
    | none => some false
    | some user => store.evalExpr fuel uid (store.users.groupsFor user) expr

def fromName (name : Ustr) : Option PermissionId :=
  if name = "any" then some 0 else store.byName.lookup name

/-- The names of some permissions. A permission that is named a second time has lost its
name by then. -/
def named (perms : List UInt16) : AList fun _ : UInt16 => Ustr :=
  (perms.foldl
    (fun (state : (AList fun _ : UInt16 => Ustr) × AList fun _ : UInt16 => Ustr) perm =>
      (state.1.erase perm, state.2.insert perm ((state.1.lookup perm).getD "unknown")))
    (store.byId, ∅)).2

/-- The permissions of a user or a group itself, or all there are, with the group of each. -/
def all (subject : Option UInt32) (group : Bool) :
    Except CoreError (List (UInt16 × Ustr × Option Ustr)) := do
  let own (id : UInt32) (perms : List UInt16) (grants revokes : Overlay) :=
    store.named ((perms ++ grants.of id).filter fun perm => !revokes.has id perm)
  let perms ←
    match subject, group with
    | some uid, false =>
        match store.users.lookupByUid uid with
        | some user =>
            .ok (own uid user.permissions store.inner.overlayUidGrants
              store.inner.overlayUidRevokes)
        | none => .error (.notFound ("user " ++ toString uid))
    | some gid, true =>
        match store.users.group gid with
        | some group =>
            .ok (own gid group.permissions store.inner.overlayGidGrants
              store.inner.overlayGidRevokes)
        | none => .error (.notFound ("group " ++ toString gid))
    | none, _ => .ok store.byId
  .ok (perms.entries.map fun entry => (entry.1, entry.2, store.inner.groups.lookup entry.1))

/-! ## Changes -/

/-- Change what is guarded by the lock. -/
def modify (change : PermissionStoreInner → PermissionStoreInner) : PermissionStore :=
  { store with inner := change store.inner }

/-- Link a permission to one that implies it, unless that is linked to it. -/
def link (perm parent : UInt16) : PermissionStore :=
  if (store.linksOf parent).contains perm then store
  else
    store.modify fun inner =>
      { inner with links := inner.links.insert perm ((store.linksOf perm).insert parent) }

/-- Have a group hold a permission. -/
def orGroup (perm : UInt16) (group : Ustr) : PermissionStore :=
  store.modify fun inner => { inner with groups := inner.groups.insert perm group }

def grantUser (uid : UInt32) (perm : PermissionId) : PermissionStore :=
  store.modify fun inner =>
    { inner with
      overlayUidRevokes := inner.overlayUidRevokes.remove uid perm
      overlayUidGrants := inner.overlayUidGrants.add uid perm }

def grantGroup (gid : UInt32) (perm : PermissionId) : PermissionStore :=
  store.modify fun inner =>
    { inner with
      overlayGidRevokes := inner.overlayGidRevokes.remove gid perm
      overlayGidGrants := inner.overlayGidGrants.add gid perm }

def ungrantUser (uid : UInt32) (perm : PermissionId) : PermissionStore :=
  store.modify fun inner =>
    { inner with
      overlayUidGrants := inner.overlayUidGrants.remove uid perm
      overlayUidRevokes := inner.overlayUidRevokes.add uid perm }

def ungrantGroup (gid : UInt32) (perm : PermissionId) : PermissionStore :=
  store.modify fun inner =>
    { inner with
      overlayGidGrants := inner.overlayGidGrants.remove gid perm
      overlayGidRevokes := inner.overlayGidRevokes.add gid perm }

def writePermsWithOverlay (path : String) (outcome : Except String Unit) :
    Except CoreError (List UInt8) :=
  store.users.writePermsWithOverlay path outcome store.inner.overlayUidGrants
    store.inner.overlayUidRevokes store.inner.overlayGidGrants store.inner.overlayGidRevokes

end PermissionStore

/-- An operation that changes what users and groups hold. -/
inductive PermissionOp where
  | grantUser (uid : UInt32) (perm : PermissionId)
  | ungrantUser (uid : UInt32) (perm : PermissionId)
  | grantGroup (gid : UInt32) (perm : PermissionId)
  | ungrantGroup (gid : UInt32) (perm : PermissionId)
  | link (perm parent : UInt16)
  | orGroup (perm : UInt16) (group : Ustr)
  deriving DecidableEq, Repr

def PermissionStore.apply (store : PermissionStore) : PermissionOp → PermissionStore
  | .grantUser uid perm => store.grantUser uid perm
  | .ungrantUser uid perm => store.ungrantUser uid perm
  | .grantGroup gid perm => store.grantGroup gid perm
  | .ungrantGroup gid perm => store.ungrantGroup gid perm
  | .link perm parent => store.link perm parent
  | .orGroup perm group => store.orGroup perm group

end Rind
