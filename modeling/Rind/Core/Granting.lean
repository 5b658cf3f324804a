import Rind.Core.Linking

/-!
# Grants and revocations

What is granted to one user or group makes nobody lose a permission, and what is revoked makes
nobody gain one.  Over links without circles this goes by the overlays alone: more is granted
and less revoked in one store than in another.
-/

namespace Rind.PermissionStore

open Fuel

variable {store other : PermissionStore}

/-- Not more is granted in a store than in another, and not less revoked. -/
structure GrantsLess (store other : PermissionStore) : Prop where
  users : other.users = store.users
  links : other.inner.links = store.inner.links
  groups : other.inner.groups = store.inner.groups
  userGrants : ∀ uid perm, store.inner.overlayUidGrants.has uid perm →
    other.inner.overlayUidGrants.has uid perm
  userRevokes : ∀ uid perm, other.inner.overlayUidRevokes.has uid perm →
    store.inner.overlayUidRevokes.has uid perm
  groupGrants : ∀ gid perm, store.inner.overlayGidGrants.has gid perm →
    other.inner.overlayGidGrants.has gid perm
  groupRevokes : ∀ gid perm, other.inner.overlayGidRevokes.has gid perm →
    store.inner.overlayGidRevokes.has gid perm

/-! ## Changes of the overlays -/

theorem grantsLess_grantUser (uid : UInt32) (perm : PermissionId) :
    GrantsLess store (store.grantUser uid perm) where
  users := rfl
  links := rfl
  groups := rfl
  userGrants _ _ granted := Overlay.has_add.mpr (.inr granted)
  userRevokes _ _ revoked := (Overlay.has_remove.mp revoked).2
  groupGrants _ _ granted := granted
  groupRevokes _ _ revoked := revoked

theorem grantsLess_grantGroup (gid : UInt32) (perm : PermissionId) :
    GrantsLess store (store.grantGroup gid perm) where
  users := rfl
  links := rfl
  groups := rfl
  userGrants _ _ granted := granted
  userRevokes _ _ revoked := revoked
  groupGrants _ _ granted := Overlay.has_add.mpr (.inr granted)
  groupRevokes _ _ revoked := (Overlay.has_remove.mp revoked).2

theorem grantsLess_ungrantUser (uid : UInt32) (perm : PermissionId) :
    GrantsLess (store.ungrantUser uid perm) store where
  users := rfl
  links := rfl
  groups := rfl
  userGrants _ _ granted := (Overlay.has_remove.mp granted).2
  userRevokes _ _ revoked := Overlay.has_add.mpr (.inr revoked)
  groupGrants _ _ granted := granted
  groupRevokes _ _ revoked := revoked

theorem grantsLess_ungrantGroup (gid : UInt32) (perm : PermissionId) :
    GrantsLess (store.ungrantGroup gid perm) store where
  users := rfl
  links := rfl
  groups := rfl
  userGrants _ _ granted := granted
  userRevokes _ _ revoked := revoked
  groupGrants _ _ granted := (Overlay.has_remove.mp granted).2
  groupRevokes _ _ revoked := Overlay.has_add.mpr (.inr revoked)

/-! ## Answers -/

namespace GrantsLess

theorem linksOf (less : GrantsLess store other) (perm : PermissionId) :
    other.linksOf perm = store.linksOf perm := by
  rw [PermissionStore.linksOf, less.links, PermissionStore.linksOf]

theorem acyclic (less : GrantsLess store other) (acyclic : store.LinksAcyclic) :
    other.LinksAcyclic := by
  simp only [LinksAcyclic, less.linksOf]
  exact acyclic

/-- What is not revoked stays given, or open, where less is revoked and more is granted. -/
theorem overlaid {own granted granted' revoked revoked' : Bool} (more : granted → granted')
    (fewer : revoked' → revoked) :
    ((if revoked then some false else if own || granted then some true else none) = some true →
        (if revoked' then some false else if own || granted' then some true else none) =
          some true) ∧
      ((if revoked then some false else if own || granted then some true else none) = none →
        (if revoked' then some false else if own || granted' then some true else none) ≠
          some false) := by
  cases revoked with
  | true => simp
  | false =>
      have open_ : revoked' = false := by
        rw [← Bool.not_eq_true]
        exact fun found => absurd (fewer found) Bool.false_ne_true
      rw [open_]
      cases own <;> cases granted <;> simp_all

/-- What is not denied to a group at once is not denied to it where more is granted. -/
theorem groupDirect (less : GrantsLess store other) {gid : UInt32} {perm : PermissionId} :
    (store.groupDirect gid perm = some true → other.groupDirect gid perm = some true) ∧
      (store.groupDirect gid perm = none → other.groupDirect gid perm ≠ some false) := by
  rw [PermissionStore.groupDirect, PermissionStore.groupDirect, less.users]
  cases store.users.group gid with
  | none => simp
  | some group =>
      exact overlaid (less.groupGrants gid perm) (less.groupRevokes gid perm)

theorem userDirect (less : GrantsLess store other) {uid : UInt32} {perm : PermissionId} :
    (store.userDirect uid perm = some true → other.userDirect uid perm = some true) ∧
      (store.userDirect uid perm = none → other.userDirect uid perm ≠ some false) := by
  rw [PermissionStore.userDirect, PermissionStore.userDirect, less.users]
  by_cases always : uid = 0 ∨ perm = 0
  · simp [always]
  · rw [if_neg always, if_neg always]
    cases store.users.lookupByUid uid with
    | none => simp
    | some user =>
        dsimp only
        rw [heldByGroup, heldByGroup, less.groups]
        by_cases held : (store.inner.groups.lookup perm).any
            (store.users.groupsFor user).contains = true
        · simp [held]
        · rw [if_neg held, if_neg held]
          exact overlaid (less.userGrants uid perm) (less.userRevokes uid perm)

/-- A group keeps what it holds, by induction along the links. -/
theorem groupHolds (less : GrantsLess store other) (acyclic : store.LinksAcyclic) {gid : UInt32}
    {perm : PermissionId} (holds : store.GroupHolds gid perm) : other.GroupHolds gid perm := by
  induction perm using acyclic.induction with
  | step perm ih =>
      rw [(less.acyclic acyclic).groupHolds_iff]
      rcases acyclic.groupHolds_iff.mp holds with given | ⟨passed, linked, listed, held⟩
      · exact .inl (less.groupDirect.1 given)
      · cases direct : other.groupDirect gid perm with
        | some answer =>
            cases answer with
            | true => exact .inl rfl
            | false => exact absurd direct (less.groupDirect.2 passed)
        | none =>
            refine .inr ⟨rfl, linked, ?_, ih linked listed held⟩
            rwa [less.linksOf]

theorem groupsHold (less : GrantsLess store other) (acyclic : store.LinksAcyclic) {uid : UInt32}
    {perm : PermissionId} (holds : store.GroupsHold uid perm) : other.GroupsHold uid perm := by
  obtain ⟨name, member, gid, known, held⟩ := holds
  refine ⟨name, ?_, gid, ?_, less.groupHolds acyclic held⟩
  · rwa [groupsOf, less.users]
  · rwa [less.users]

/-- A user keeps what it holds, by induction along the links. -/
theorem userHolds (less : GrantsLess store other) (acyclic : store.LinksAcyclic) {uid : UInt32}
    {perm : PermissionId} (holds : store.UserHolds uid perm) : other.UserHolds uid perm := by
  induction perm using acyclic.induction with
  | step perm ih =>
      rw [(less.acyclic acyclic).userHolds_iff]
      rcases acyclic.userHolds_iff.mp holds with given | ⟨passed, otherwise⟩
      · exact .inl (less.userDirect.1 given)
      · cases direct : other.userDirect uid perm with
        | some answer =>
            cases answer with
            | true => exact .inl rfl
            | false => exact absurd direct (less.userDirect.2 passed)
        | none =>
            refine .inr ⟨rfl, ?_⟩
            rcases otherwise with grouped | ⟨linked, listed, held⟩
            · exact .inl (less.groupsHold acyclic grouped)
            · refine .inr ⟨linked, ?_, ih linked listed held⟩
              rwa [less.linksOf]

end GrantsLess

/-- Over links without circles, grants take no permission from anybody, and revocations give
none to anybody. -/
theorem grants_monotone (acyclic : store.LinksAcyclic) (uid subject : UInt32)
    (perm held : PermissionId) :
    (store.UserHolds uid held → (store.grantUser subject perm).UserHolds uid held) ∧
      (store.UserHolds uid held → (store.grantGroup subject perm).UserHolds uid held) ∧
      ((store.ungrantUser subject perm).UserHolds uid held → store.UserHolds uid held) ∧
      ((store.ungrantGroup subject perm).UserHolds uid held → store.UserHolds uid held) := by
  constructor
  · exact (grantsLess_grantUser subject perm).userHolds acyclic
  · constructor
    · exact (grantsLess_grantGroup subject perm).userHolds acyclic
    · constructor
      · exact (grantsLess_ungrantUser subject perm).userHolds acyclic
      · exact (grantsLess_ungrantGroup subject perm).userHolds acyclic

/-- A store with one link. -/
def linkedStore : PermissionStore := (new networkUsers).link 1002 1003

theorem linkedStore_acyclic : linkedStore.LinksAcyclic := by
  intro perm circle
  have links (linked perm : PermissionId) (listed : linked ∈ linkedStore.linksOf perm) :
      perm = 1002 ∧ linked = 1003 := by
    rw [linkedStore, linksOf_link, if_neg (by decide)] at listed
    split at listed
    · rename_i same
      exact ⟨same, List.mem_singleton.mp listed⟩
    · cases listed
  obtain ⟨linked, listed, onward⟩ := exists_on_circle circle
  obtain ⟨next, listed', -⟩ := exists_on_circle onward
  have first := (links linked perm listed).2
  have second := (links next linked listed').1
  rw [first] at second
  exact absurd second (by decide)

theorem grants_monotone_linked :
    (linkedStore.UserHolds 1000 1002 → (linkedStore.grantUser 1000 1003).UserHolds 1000 1002) ∧
      (linkedStore.UserHolds 1000 1002 → (linkedStore.grantGroup 1000 1003).UserHolds 1000 1002) ∧
      ((linkedStore.ungrantUser 1000 1003).UserHolds 1000 1002 → linkedStore.UserHolds 1000 1002) ∧
      ((linkedStore.ungrantGroup 1000 1003).UserHolds 1000 1002 → linkedStore.UserHolds 1000 1002) :=
  grants_monotone linkedStore_acyclic 1000 1000 1003 1002

/-! ## Changes that change nothing -/

/-- Grant a permission to a user, or revoke it. -/
def changeUser (store : PermissionStore) (grant : Bool) (uid : UInt32) (perm : PermissionId) :
    PermissionStore :=
  if grant then store.grantUser uid perm else store.ungrantUser uid perm

/-- Grant a permission to a group, or revoke it. -/
def changeGroup (store : PermissionStore) (grant : Bool) (gid : UInt32) (perm : PermissionId) :
    PermissionStore :=
  if grant then store.grantGroup gid perm else store.ungrantGroup gid perm

/-- The answer for a user once a permission has been granted to it, or revoked. -/
def userSettled (store : PermissionStore) (grant : Bool) (uid : UInt32) (perm : PermissionId) :
    Bool :=
  uid == 0 || perm == 0 ||
    (store.users.lookupByUid uid).any fun user =>
      store.heldByGroup (store.users.groupsFor user) perm || grant

/-- The answer for a group once a permission has been granted to it, or revoked. -/
def groupSettled (store : PermissionStore) (grant : Bool) (gid : UInt32) : Bool :=
  (store.users.group gid).isSome && grant

section Settled

variable {grant : Bool} {uid gid : UInt32} {perm : PermissionId}

theorem has_add_self (overlay : Overlay) (id : UInt32) (perm : PermissionId) :
    (overlay.add id perm).has id perm = true := Overlay.has_add.mpr (.inl ⟨rfl, rfl⟩)

theorem has_remove_self (overlay : Overlay) (id : UInt32) (perm : PermissionId) :
    (overlay.remove id perm).has id perm = false := by
  rw [← Bool.not_eq_true, Overlay.has_remove]
  exact fun both => both.1 ⟨rfl, rfl⟩

theorem has_add_of_ne (overlay : Overlay) {id other : UInt32} {perm perm' : PermissionId}
    (apart : ¬ (other = id ∧ perm' = perm)) :
    (overlay.add id perm).has other perm' = overlay.has other perm' := by
  rw [Bool.eq_iff_iff, Overlay.has_add]
  exact or_iff_right apart

theorem has_remove_of_ne (overlay : Overlay) {id other : UInt32} {perm perm' : PermissionId}
    (apart : ¬ (other = id ∧ perm' = perm)) :
    (overlay.remove id perm).has other perm' = overlay.has other perm' := by
  rw [Bool.eq_iff_iff, Overlay.has_remove]
  exact and_iff_right apart

/-- What is answered for the user at once. -/
theorem userDirect_changeUser :
    (store.changeUser grant uid perm).userDirect uid perm =
      some (store.userSettled grant uid perm) := by
  rw [userDirect, userSettled]
  by_cases always : uid = 0 ∨ perm = 0
  · rw [if_pos always]
    rcases always with rfl | rfl <;> simp
  · rw [if_neg always]
    rw [not_or] at always
    have users : (store.changeUser grant uid perm).users = store.users := by
      cases grant <;> rfl
    have held (groups : List Ustr) :
        (store.changeUser grant uid perm).heldByGroup groups perm = store.heldByGroup groups perm := by
      cases grant <;> rfl
    rw [users]
    cases store.users.lookupByUid uid with
    | none => simp [always]
    | some user =>
        dsimp only
        rw [held]
        cases isHeld : store.heldByGroup (store.users.groupsFor user) perm with
        | true => simp [isHeld]
        | false =>
            cases grant with
            | true =>
                have granted : (store.changeUser true uid perm).inner.overlayUidGrants.has uid perm =
                    true := has_add_self _ _ _
                have revoked : (store.changeUser true uid perm).inner.overlayUidRevokes.has uid perm =
                    false := has_remove_self _ _ _
                simp [granted, revoked]
            | false =>
                have revoked : (store.changeUser false uid perm).inner.overlayUidRevokes.has uid perm =
                    true := has_add_self _ _ _
                simp [revoked, always, isHeld]

/-- All other questions about users are decided as before. -/
theorem userDirect_changeUser_of_ne {other : UInt32} {perm' : PermissionId}
    (apart : ¬ (other = uid ∧ perm' = perm)) :
    (store.changeUser grant uid perm).userDirect other perm' = store.userDirect other perm' := by
  cases grant with
  | true =>
      have granted := has_add_of_ne store.inner.overlayUidGrants apart
      have revoked := has_remove_of_ne store.inner.overlayUidRevokes apart
      simp only [changeUser, if_true, userDirect, grantUser, modify, granted, revoked, heldByGroup]
      rfl
  | false =>
      have granted := has_remove_of_ne store.inner.overlayUidGrants apart
      have revoked := has_add_of_ne store.inner.overlayUidRevokes apart
      simp only [changeUser, Bool.false_eq_true, if_false, userDirect, ungrantUser, modify, granted,
        revoked, heldByGroup]
      rfl

theorem groupDirect_changeGroup :
    (store.changeGroup grant gid perm).groupDirect gid perm = some (store.groupSettled grant gid) := by
  have users : (store.changeGroup grant gid perm).users = store.users := by
    cases grant <;> rfl
  rw [groupDirect, groupSettled, users]
  cases store.users.group gid with
  | none => rfl
  | some group =>
      cases grant with
      | true =>
          have granted : (store.changeGroup true gid perm).inner.overlayGidGrants.has gid perm =
              true := has_add_self _ _ _
          have revoked : (store.changeGroup true gid perm).inner.overlayGidRevokes.has gid perm =
              false := has_remove_self _ _ _
          simp [granted, revoked]
      | false =>
          have revoked : (store.changeGroup false gid perm).inner.overlayGidRevokes.has gid perm =
              true := has_add_self _ _ _
          simp [revoked]

theorem groupDirect_changeGroup_of_ne {other : UInt32} {perm' : PermissionId}
    (apart : ¬ (other = gid ∧ perm' = perm)) :
    (store.changeGroup grant gid perm).groupDirect other perm' = store.groupDirect other perm' := by
  cases grant with
  | true =>
      have granted := has_add_of_ne store.inner.overlayGidGrants apart
      have revoked := has_remove_of_ne store.inner.overlayGidRevokes apart
      simp only [changeGroup, if_true, groupDirect, grantGroup, modify, granted, revoked]
  | false =>
      have granted := has_remove_of_ne store.inner.overlayGidGrants apart
      have revoked := has_add_of_ne store.inner.overlayGidRevokes apart
      simp only [changeGroup, Bool.false_eq_true, if_false, groupDirect, ungrantGroup, modify, granted,
        revoked]

/-! ### Answers that stay -/

section Stay

variable {other : PermissionStore}

/-- The answers about a group stay where each permission is decided alike, or its answers stay
anyway. -/
theorem answers_groupHas_of (links : other.linksOf = store.linksOf)
    (each : ∀ perm, other.groupDirect gid perm = store.groupDirect gid perm ∨
      ∀ answer, Answers (store.groupHas · gid perm) answer → Answers (other.groupHas · gid perm) answer)
    {perm : PermissionId} {answer : Bool} (found : Answers (store.groupHas · gid perm) answer) :
    Answers (other.groupHas · gid perm) answer := by
  simp only [groupHas_eq_ask] at each found ⊢
  apply Links.answers_of links _ _ found
  · intro perm fuel answer found
    exact found
  · intro perm
    rcases each perm with alike | anyway
    · refine .inl ?_
      rintro decided ⟨fuel, asked⟩
      refine ⟨fuel, ?_⟩
      change some (other.groupDirect gid perm) = _
      rw [alike]
      exact asked
    · exact .inr anyway

theorem answers_groupsHave_of (users : other.users = store.users)
    (groups : ∀ gid perm answer, Answers (store.groupHas · gid perm) answer →
      Answers (other.groupHas · gid perm) answer) {names : List Ustr} {fuel : Nat}
    {perm : PermissionId} {held : Bool} (found : store.groupsHave fuel names perm = some held) :
    Answers (other.groupsHave · names perm) held := by
  refine answers_anyM_of _ names (fun name => growing_named name perm) ?_ found
  intro name _ answer asked
  rw [users]
  cases known : store.users.groupByName name with
  | none =>
      rw [known] at asked
      exact ⟨0, asked⟩
  | some group =>
      rw [known] at asked
      exact groups group.gid perm answer ⟨fuel, asked⟩

/-- The answers about a user stay where those about groups do, and each permission is decided
alike or its answers stay anyway. -/
theorem answers_userHas_of (links : other.linksOf = store.linksOf)
    (users : other.users = store.users)
    (groups : ∀ gid perm answer, Answers (store.groupHas · gid perm) answer →
      Answers (other.groupHas · gid perm) answer)
    (each : ∀ perm, other.userDirect uid perm = store.userDirect uid perm ∨
      ∀ answer, Answers (store.userHas · uid perm) answer → Answers (other.userHas · uid perm) answer)
    {perm : PermissionId} {answer : Bool} (found : Answers (store.userHas · uid perm) answer) :
    Answers (other.userHas · uid perm) answer := by
  simp only [userHas_eq_ask] at each found ⊢
  apply Links.answers_of links (growing_userDecided uid) _ found
  intro perm
  rcases each perm with alike | anyway
  · refine .inl ?_
    rintro decided ⟨fuel, asked⟩
    change store.userDecided uid fuel perm = some decided at asked
    rw [userDecided] at asked
    cases direct : store.userDirect uid perm with
    | some given =>
        rw [direct] at asked
        refine ⟨0, ?_⟩
        change other.userDecided uid 0 perm = _
        rw [userDecided, alike, direct]
        exact asked
    | none =>
        rw [direct] at asked
        obtain ⟨held, grouped, same⟩ := Option.map_eq_some_iff.mp asked
        obtain ⟨fuel', grouped'⟩ := answers_groupsHave_of users groups grouped
        refine ⟨fuel', ?_⟩
        change other.userDecided uid fuel' perm = _
        have groupsOf_eq : other.groupsOf uid = store.groupsOf uid := by
          rw [groupsOf, groupsOf, users]
        dsimp only at grouped'
        rw [userDecided, alike, direct, groupsOf_eq, grouped']
        exact congrArg some same
  · exact .inr anyway

end Stay

theorem answers_of_userDirect {answer : Bool} (direct : store.userDirect uid perm = some answer) :
    Answers (store.userHas · uid perm) answer := by
  refine ⟨1, ?_⟩
  dsimp only
  rw [userHas_succ, direct]
  rfl

theorem answers_of_groupDirect {answer : Bool} (direct : store.groupDirect gid perm = some answer) :
    Answers (store.groupHas · gid perm) answer := by
  refine ⟨1, ?_⟩
  dsimp only
  rw [groupHas_succ, direct]
  rfl

/-- A change for a user changes no answers exactly where the one it is about is settled. -/
theorem sameAnswers_changeUser_iff : SameAnswers store (store.changeUser grant uid perm) ↔
    Answers (store.userHas · uid perm) (store.userSettled grant uid perm) := by
  have links : (store.changeUser grant uid perm).linksOf = store.linksOf := by
    cases grant <;> rfl
  have users : (store.changeUser grant uid perm).users = store.users := by
    cases grant <;> rfl
  have groups (fuel : Nat) (gid : UInt32) (perm' : PermissionId) :
      (store.changeUser grant uid perm).groupHas fuel gid perm' = store.groupHas fuel gid perm' := by
    apply SameGroups.groupHas
    cases grant <;> exact ⟨rfl, rfl, rfl, rfl⟩
  have after : Answers ((store.changeUser grant uid perm).userHas · uid perm)
      (store.userSettled grant uid perm) := answers_of_userDirect userDirect_changeUser
  constructor
  · intro same
    exact (same.1 uid perm _).mpr after
  · intro settled
    have unique {answer : Bool} (found : Answers (store.userHas · uid perm) answer) :
        answer = store.userSettled grant uid perm := (growing_userHas uid perm).unique found settled
    have unique' {answer : Bool}
        (found : Answers ((store.changeUser grant uid perm).userHas · uid perm) answer) :
        answer = store.userSettled grant uid perm := (growing_userHas uid perm).unique found after
    constructor
    · intro other perm' answer
      constructor
      · apply answers_userHas_of links users
        · intro gid perm answer found
          simpa only [groups] using found
        · intro perm'
          by_cases about : other = uid ∧ perm' = perm
          · obtain ⟨rfl, rfl⟩ := about
            refine .inr fun answer found => ?_
            rwa [unique found]
          · exact .inl (userDirect_changeUser_of_ne about)
      · apply answers_userHas_of links.symm users.symm
        · intro gid perm answer found
          simpa only [groups] using found
        · intro perm'
          by_cases about : other = uid ∧ perm' = perm
          · obtain ⟨rfl, rfl⟩ := about
            refine .inr fun answer found => ?_
            rwa [unique' found]
          · exact .inl (userDirect_changeUser_of_ne about).symm
    · intro gid perm' answer
      simp only [groups]

/-- A change for a group changes no answers exactly where the one it is about is settled. -/
theorem sameAnswers_changeGroup_iff : SameAnswers store (store.changeGroup grant gid perm) ↔
    Answers (store.groupHas · gid perm) (store.groupSettled grant gid) := by
  have links : (store.changeGroup grant gid perm).linksOf = store.linksOf := by
    cases grant <;> rfl
  have users : (store.changeGroup grant gid perm).users = store.users := by
    cases grant <;> rfl
  have direct (uid : UInt32) (perm' : PermissionId) :
      (store.changeGroup grant gid perm).userDirect uid perm' = store.userDirect uid perm' := by
    cases grant <;> rfl
  have after : Answers ((store.changeGroup grant gid perm).groupHas · gid perm)
      (store.groupSettled grant gid) := answers_of_groupDirect groupDirect_changeGroup
  constructor
  · intro same
    exact (same.2 gid perm _).mpr after
  · intro settled
    have unique {answer : Bool} (found : Answers (store.groupHas · gid perm) answer) :
        answer = store.groupSettled grant gid := (growing_groupHas gid perm).unique found settled
    have unique' {answer : Bool}
        (found : Answers ((store.changeGroup grant gid perm).groupHas · gid perm) answer) :
        answer = store.groupSettled grant gid := (growing_groupHas gid perm).unique found after
    have forth (other : UInt32) (perm' : PermissionId) (answer : Bool)
        (found : Answers (store.groupHas · other perm') answer) :
        Answers ((store.changeGroup grant gid perm).groupHas · other perm') answer := by
      apply answers_groupHas_of links _ found
      intro perm'
      by_cases about : other = gid ∧ perm' = perm
      · obtain ⟨rfl, rfl⟩ := about
        refine .inr fun answer found => ?_
        rwa [unique found]
      · exact .inl (groupDirect_changeGroup_of_ne about)
    have back (other : UInt32) (perm' : PermissionId) (answer : Bool)
        (found : Answers ((store.changeGroup grant gid perm).groupHas · other perm') answer) :
        Answers (store.groupHas · other perm') answer := by
      apply answers_groupHas_of links.symm _ found
      intro perm'
      by_cases about : other = gid ∧ perm' = perm
      · obtain ⟨rfl, rfl⟩ := about
        refine .inr fun answer found => ?_
        rwa [unique' found]
      · exact .inl (groupDirect_changeGroup_of_ne about).symm
    constructor
    · intro uid perm' answer
      constructor
      · exact answers_userHas_of links users forth fun perm' => .inl (direct uid perm')
      · exact answers_userHas_of links.symm users.symm back fun perm' =>
          .inl (direct uid perm').symm
    · intro other perm' answer
      exact ⟨forth other perm' answer, back other perm' answer⟩

end Settled

end Rind.PermissionStore
