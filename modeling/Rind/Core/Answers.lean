import Rind.Core.Permissions
import Rind.Prog.Fuel
import Mathlib.Data.Fintype.Card
import Mathlib.Data.Fintype.EquivFin
import Mathlib.Order.WellFounded

/-!
# Answers about permissions

What it takes for a user or a group to hold a permission, whatever the fuel.  If
the links between permissions have no cycle, every question has an answer.
-/

namespace Rind.PermissionStore

open Fuel

variable {store : PermissionStore}

/-- The group of that id holds a permission. -/
def GroupHolds (store : PermissionStore) (gid : UInt32) (perm : PermissionId) : Prop :=
  Answers (store.groupHas · gid perm) true

/-- The user of that id holds a permission. -/
def UserHolds (store : PermissionStore) (uid : UInt32) (perm : PermissionId) : Prop :=
  Answers (store.userHas · uid perm) true

/-- The groups of the user of an id. -/
def groupsOf (store : PermissionStore) (uid : UInt32) : List Ustr :=
  ((store.users.lookupByUid uid).map store.users.groupsFor).getD []

/-- One of a user's groups holds a permission. -/
def GroupsHold (store : PermissionStore) (uid : UInt32) (perm : PermissionId) : Prop :=
  ∃ name ∈ store.groupsOf uid, ∃ gid, (store.users.groupByName name).map GroupEntry.gid = some gid ∧
    store.GroupHolds gid perm

/-- A permission linked to one is held by a group. -/
def GroupHoldsLinked (store : PermissionStore) (gid : UInt32) (perm : PermissionId) : Prop :=
  ∃ linked ∈ store.linksOf perm, store.GroupHolds gid linked

/-- A user holds a permission by way of a group or of a linked permission. -/
def HoldsOtherwise (store : PermissionStore) (uid : UInt32) (perm : PermissionId) : Prop :=
  store.GroupsHold uid perm ∨ ∃ linked ∈ store.linksOf perm, store.UserHolds uid linked

/-- No permission is linked to itself, at any distance. -/
def LinksAcyclic (store : PermissionStore) : Prop :=
  ∀ perm, ¬ Relation.TransGen (fun linked perm => linked ∈ store.linksOf perm) perm perm

/-! ## One step -/

/-- What is answered for a group without looking at the links. -/
def groupDirect (store : PermissionStore) (gid : UInt32) (perm : PermissionId) : Option Bool :=
  match store.users.group gid with
  | none => some false
  | some group =>
      if store.inner.overlayGidRevokes.has gid perm then some false
      else if group.permissions.contains perm || store.inner.overlayGidGrants.has gid perm then
        some true
      else none

theorem groupHas_succ (fuel : Nat) (gid : UInt32) (perm : PermissionId) :
    store.groupHas (fuel + 1) gid perm =
      (store.groupDirect gid perm).or ((store.linksOf perm).anyM (store.groupHas fuel gid)) := by
  rw [groupHas, groupDirect]
  cases store.users.group gid with
  | none => rfl
  | some group =>
      dsimp only
      split
      · rfl
      · split <;> rfl

/-- What is answered for a user without looking at its groups and the links. -/
def userDirect (store : PermissionStore) (uid : UInt32) (perm : PermissionId) : Option Bool :=
  if uid = 0 ∨ perm = 0 then some true
  else
    match store.users.lookupByUid uid with
    | none => some false
    | some user =>
        if store.heldByGroup (store.users.groupsFor user) perm then some true
        else if store.inner.overlayUidRevokes.has uid perm then some false
        else if user.permissions.contains perm || store.inner.overlayUidGrants.has uid perm then
          some true
        else none

theorem userHas_succ (fuel : Nat) (uid : UInt32) (perm : PermissionId) :
    store.userHas (fuel + 1) uid perm =
      (store.userDirect uid perm).or
        ((store.groupsHave fuel (store.groupsOf uid) perm).bind fun held =>
          if held then some true else (store.linksOf perm).anyM (store.userHas fuel uid)) := by
  rw [userHas, userDirect, groupsOf]
  split
  · rfl
  · cases store.users.lookupByUid uid with
    | none => rfl
    | some user =>
        dsimp only
        split
        · rfl
        · split
          · rfl
          · split <;> rfl

/-! ## More fuel -/

theorem growing_groupHas (gid : UInt32) (perm : PermissionId) :
    Growing (store.groupHas · gid perm) := by
  intro fuel
  induction fuel generalizing perm with
  | zero =>
      intro answer found
      cases found
  | succ fuel ih =>
      intro answer found
      dsimp only at found ⊢
      rw [groupHas_succ] at found ⊢
      cases direct : store.groupDirect gid perm with
      | some given => rwa [direct] at found
      | none =>
          rw [direct, Option.none_or] at found
          exact anyM_mono (fun linked _ => ih linked) found

/-- The question about the group of a name. -/
theorem growing_named (name : Ustr) (perm : PermissionId) :
    Growing fun fuel => match store.users.groupByName name with
      | some group => store.groupHas fuel group.gid perm
      | none => some false := by
  cases store.users.groupByName name with
  | none => exact fun _ _ found => found
  | some group => exact growing_groupHas group.gid perm

theorem growing_groupsHave (groups : List Ustr) (perm : PermissionId) :
    Growing (store.groupsHave · groups perm) :=
  growing_anyM _ _ fun name => growing_named name perm

theorem growing_userHas (uid : UInt32) (perm : PermissionId) :
    Growing (store.userHas · uid perm) := by
  intro fuel
  induction fuel generalizing perm with
  | zero =>
      intro answer found
      cases found
  | succ fuel ih =>
      intro answer found
      dsimp only at found ⊢
      rw [userHas_succ] at found ⊢
      cases direct : store.userDirect uid perm with
      | some given => rwa [direct] at found
      | none =>
          rw [direct, Option.none_or] at found
          obtain ⟨held, asked, found⟩ := Option.bind_eq_some_iff.mp found
          have asked : store.groupsHave (fuel + 1) (store.groupsOf uid) perm = some held :=
            growing_groupsHave _ _ fuel held asked
          rw [Option.none_or, asked, Option.bind_some]
          cases held with
          | true => exact found
          | false => exact anyM_mono (fun linked _ => ih linked) found

/-! ## Without cycles -/

/-- There are finitely many permissions. -/
theorem wellFounded_of_noCircle {passes : PermissionId → PermissionId → Prop}
    (circle : ∀ perm, ¬ Relation.TransGen passes perm perm) : WellFounded passes := by
  have : Finite UInt16 := Finite.of_injective UInt16.toFin fun _ _ => UInt16.toFin_inj.mp
  have : Std.Irrefl (Relation.TransGen passes) := ⟨circle⟩
  have wellFounded : WellFounded (Relation.TransGen passes) :=
    Finite.wellFounded_of_trans_of_irrefl _
  exact Subrelation.wf (fun step => Relation.TransGen.single step) wellFounded

/-- Induction over the links. -/
theorem LinksAcyclic.induction (acyclic : store.LinksAcyclic) {holds : PermissionId → Prop}
    (step : ∀ perm, (∀ linked ∈ store.linksOf perm, holds linked) → holds perm)
    (perm : PermissionId) : holds perm :=
  (wellFounded_of_noCircle acyclic).induction perm step

theorem LinksAcyclic.groupHas (acyclic : store.LinksAcyclic) (gid : UInt32) (perm : PermissionId) :
    ∃ answer, Answers (store.groupHas · gid perm) answer := by
  induction perm using acyclic.induction with
  | step perm ih =>
      obtain ⟨answer, fuel, found⟩ := answers_anyM (fun fuel => store.groupHas fuel gid) _
        (growing_groupHas gid) ih
      refine ⟨(store.groupDirect gid perm).getD answer, fuel + 1, ?_⟩
      dsimp only at found ⊢
      rw [groupHas_succ, found]
      cases store.groupDirect gid perm <;> rfl

theorem LinksAcyclic.named (acyclic : store.LinksAcyclic) (name : Ustr) (perm : PermissionId) :
    ∃ answer, Answers (fun fuel => match store.users.groupByName name with
      | some group => store.groupHas fuel group.gid perm
      | none => some false) answer := by
  cases store.users.groupByName name with
  | none => exact ⟨false, 0, rfl⟩
  | some group => exact acyclic.groupHas group.gid perm

theorem LinksAcyclic.userHas (acyclic : store.LinksAcyclic) (uid : UInt32) (perm : PermissionId) :
    ∃ answer, Answers (store.userHas · uid perm) answer := by
  induction perm using acyclic.induction with
  | step perm ih =>
      obtain ⟨held, fuel, asked⟩ := answers_anyM _ (store.groupsOf uid)
        (fun name => growing_named name perm) fun name _ => acyclic.named name perm
      obtain ⟨answer, fuel', found⟩ := answers_anyM (fun fuel => store.userHas fuel uid) _
        (growing_userHas uid) ih
      have asked := (growing_groupsHave (store.groupsOf uid) perm).mono
        (Nat.le_max_left fuel fuel') asked
      have found := (growing_anyM _ _ (growing_userHas uid)).mono (Nat.le_max_right fuel fuel') found
      refine ⟨(store.userDirect uid perm).getD (held || answer), max fuel fuel' + 1, ?_⟩
      dsimp only at asked found ⊢
      rw [userHas_succ, asked, Option.bind_some, found]
      cases store.userDirect uid perm <;> cases held <;> rfl

/-! ## Who holds what -/

theorem LinksAcyclic.groupHolds_iff (acyclic : store.LinksAcyclic) {gid : UInt32}
    {perm : PermissionId} :
    store.GroupHolds gid perm ↔ store.groupDirect gid perm = some true ∨
      store.groupDirect gid perm = none ∧ store.GroupHoldsLinked gid perm := by
  have search := answers_anyM_true (fun fuel => store.groupHas fuel gid) _
    (growing_groupHas gid) fun linked (_ : linked ∈ store.linksOf perm) => acyclic.groupHas gid linked
  exact (answers_succ rfl fun fuel => groupHas_succ fuel gid perm).trans
    (or_congr_right (and_congr_right fun _ => search))

theorem LinksAcyclic.groupsHold_iff (acyclic : store.LinksAcyclic) {uid : UInt32}
    {perm : PermissionId} :
    Answers (store.groupsHave · (store.groupsOf uid) perm) true ↔ store.GroupsHold uid perm := by
  refine (answers_anyM_true _ _ (fun name => growing_named name perm)
    fun name _ => acyclic.named name perm).trans ?_
  refine exists_congr fun name => and_congr_right fun _ => ?_
  cases store.users.groupByName name with
  | none => simp [Answers]
  | some group => simp [GroupHolds]

theorem LinksAcyclic.userHolds_iff (acyclic : store.LinksAcyclic) {uid : UInt32}
    {perm : PermissionId} :
    store.UserHolds uid perm ↔ store.userDirect uid perm = some true ∨
      store.userDirect uid perm = none ∧ store.HoldsOtherwise uid perm := by
  have search := answers_anyM_true (fun fuel => store.userHas fuel uid) _
    (growing_userHas uid) fun linked (_ : linked ∈ store.linksOf perm) => acyclic.userHas uid linked
  refine (answers_succ rfl fun fuel => userHas_succ fuel uid perm).trans
    (or_congr_right (and_congr_right fun _ => ?_))
  rw [HoldsOtherwise, ← acyclic.groupsHold_iff]
  constructor
  · rintro ⟨fuel, found⟩
    obtain ⟨held, asked, found⟩ := Option.bind_eq_some_iff.mp found
    cases held with
    | true => exact .inl ⟨fuel, asked⟩
    | false => exact .inr (search.mp ⟨fuel, found⟩)
  · intro either
    obtain ⟨held, fuel, asked⟩ := answers_anyM _ (store.groupsOf uid)
      (fun name => growing_named name perm) fun name _ => acyclic.named name perm
    cases held with
    | true => exact ⟨fuel, Option.bind_eq_some_iff.mpr ⟨true, asked, rfl⟩⟩
    | false =>
        cases either with
        | inl grouped =>
            exact absurd ((growing_groupsHave _ perm).unique grouped ⟨fuel, asked⟩) (by decide)
        | inr linked =>
            obtain ⟨fuel', found⟩ := search.mpr linked
            have asked := (growing_groupsHave (store.groupsOf uid) perm).mono
              (Nat.le_max_left fuel fuel') asked
            have found := (growing_anyM _ _ (growing_userHas uid)).mono (Nat.le_max_right fuel fuel') found
            exact ⟨max fuel fuel', Option.bind_eq_some_iff.mpr ⟨false, asked, found⟩⟩

/-! ## The same answers -/

/-- Two stores answer every question alike. -/
def SameAnswers (store other : PermissionStore) : Prop :=
  (∀ uid perm answer,
    Answers (store.userHas · uid perm) answer ↔ Answers (other.userHas · uid perm) answer) ∧
  ∀ gid perm answer,
    Answers (store.groupHas · gid perm) answer ↔ Answers (other.groupHas · gid perm) answer

theorem sameAnswers_iff {other : PermissionStore} (acyclic : store.LinksAcyclic)
    (acyclic' : other.LinksAcyclic) :
    SameAnswers store other ↔ (∀ uid perm, store.UserHolds uid perm ↔ other.UserHolds uid perm) ∧
      ∀ gid perm, store.GroupHolds gid perm ↔ other.GroupHolds gid perm := by
  refine and_congr (forall₂_congr fun uid perm => ?_) (forall₂_congr fun gid perm => ?_)
  · exact answers_congr (growing_userHas uid perm) (growing_userHas uid perm)
      (acyclic.userHas uid perm) (acyclic'.userHas uid perm)
  · exact answers_congr (growing_groupHas gid perm) (growing_groupHas gid perm)
      (acyclic.groupHas gid perm) (acyclic'.groupHas gid perm)

end Rind.PermissionStore
