import Rind.Core.Revocation
import Rind.Core.Answers

/-!
# Links between permissions

A question about a permission is passed on to those that it is linked to.  `link` turns away
a link whose converse is there, which does not keep longer circles out, nor links of a
permission to itself.  Whether all questions come to an end is then up to what is granted and
revoked along such a circle.
-/

namespace Rind.PermissionStore

open Fuel Relation

variable {store other : PermissionStore}

/-! ## Questions as searches -/

/-- The questions about a group. -/
def groupLinks (store : PermissionStore) (gid : UInt32) : Links PermissionId where
  decided _ perm := some (store.groupDirect gid perm)
  next := store.linksOf

/-- What is answered for a user without looking at the links. -/
def userDecided (store : PermissionStore) (uid : UInt32) (fuel : Nat) (perm : PermissionId) :
    Option (Option Bool) :=
  match store.userDirect uid perm with
  | some answer => some (some answer)
  | none =>
      (store.groupsHave fuel (store.groupsOf uid) perm).map fun held =>
        if held then some true else none

/-- The questions about a user. -/
def userLinks (store : PermissionStore) (uid : UInt32) : Links PermissionId where
  decided := store.userDecided uid
  next := store.linksOf

theorem groupHas_eq_ask (fuel : Nat) (gid : UInt32) (perm : PermissionId) :
    store.groupHas fuel gid perm = (store.groupLinks gid).ask fuel perm := by
  induction fuel generalizing perm with
  | zero => rfl
  | succ fuel ih =>
      rw [groupHas_succ, funext ih]
      rfl

theorem userHas_eq_ask (fuel : Nat) (uid : UInt32) (perm : PermissionId) :
    store.userHas fuel uid perm = (store.userLinks uid).ask fuel perm := by
  induction fuel generalizing perm with
  | zero => rfl
  | succ fuel ih =>
      rw [userHas_succ, funext ih, Links.ask]
      change _ = (store.userDecided uid fuel perm).bind _
      rw [userDecided]
      cases store.userDirect uid perm with
      | some answer => rfl
      | none =>
          cases store.groupsHave fuel (store.groupsOf uid) perm with
          | none => rfl
          | some held => cases held <;> rfl

theorem growing_userDecided (uid : UInt32) (perm : PermissionId) :
    Growing (store.userDecided uid · perm) := by
  intro fuel answer found
  dsimp only at found ⊢
  rw [userDecided] at found ⊢
  cases direct : store.userDirect uid perm with
  | some given => rwa [direct] at found
  | none =>
      rw [direct] at found
      obtain ⟨held, asked, same⟩ := Option.map_eq_some_iff.mp found
      have asked : store.groupsHave (fuel + 1) (store.groupsOf uid) perm = some held :=
        growing_groupsHave _ _ fuel held asked
      exact Option.map_eq_some_iff.mpr ⟨held, asked, same⟩

/-! ## Circles -/

/-- A question about a group is passed on from a permission to a linked one. -/
def GroupPasses (store : PermissionStore) (gid : UInt32) (linked perm : PermissionId) : Prop :=
  store.groupDirect gid perm = none ∧ linked ∈ store.linksOf perm

/-- A group is given a permission, or one that a question about it is passed on to. -/
def GroupReaches (store : PermissionStore) (gid : UInt32) (perm : PermissionId) : Prop :=
  ∃ last, ReflTransGen (store.GroupPasses gid) last perm ∧ store.groupDirect gid last = some true

/-- A group of a user reaches a permission. -/
def GroupsReach (store : PermissionStore) (uid : UInt32) (perm : PermissionId) : Prop :=
  ∃ name ∈ store.groupsOf uid, ∃ gid, (store.users.groupByName name).map GroupEntry.gid = some gid ∧
    store.GroupReaches gid perm

/-- A question about a user is passed on from a permission to a linked one. -/
def UserPasses (store : PermissionStore) (uid : UInt32) (linked perm : PermissionId) : Prop :=
  (store.userDirect uid perm = none ∧ ¬ store.GroupsReach uid perm) ∧ linked ∈ store.linksOf perm

/-- No question is passed on in circles. -/
structure NoCircles (store : PermissionStore) : Prop where
  groups : ∀ gid perm, ¬ TransGen (store.GroupPasses gid) perm perm
  users : ∀ uid perm, ¬ TransGen (store.UserPasses uid) perm perm

/-- All questions come to an end. -/
structure Terminates (store : PermissionStore) : Prop where
  users : ∀ uid perm, ∃ answer, Answers (store.userHas · uid perm) answer
  groups : ∀ gid perm, ∃ answer, Answers (store.groupHas · gid perm) answer

/-- The same store with the links in another order. -/
structure Reordered (store other : PermissionStore) : Prop where
  same : { other with inner := { other.inner with links := store.inner.links } } = store
  links : ∀ perm, (other.linksOf perm).Perm (store.linksOf perm)

section Ends

theorem open_groupLinks {gid : UInt32} {perm : PermissionId} :
    (store.groupLinks gid).Open perm ↔ store.groupDirect gid perm = none := by
  constructor
  · intro isOpen
    cases direct : store.groupDirect gid perm with
    | none => rfl
    | some answer => exact absurd (congrArg some direct) (isOpen 0 answer)
  · intro direct fuel answer decided
    change some (store.groupDirect gid perm) = _ at decided
    rw [direct] at decided
    cases decided

theorem NoCircles.group (circles : store.NoCircles) (gid : UInt32) (perm : PermissionId) :
    ∃ answer, Answers (store.groupHas · gid perm) answer := by
  have same (fuel : Nat) : store.groupHas fuel gid perm = (store.groupLinks gid).ask fuel perm :=
    groupHas_eq_ask fuel gid perm
  simp only [same]
  apply Links.answered
  · intro other fuel answer found
    exact found
  · intro other
    exact ⟨store.groupDirect gid other, 0, rfl⟩
  · apply Subrelation.wf _ (wellFounded_of_noCircle (circles.groups gid))
    rintro linked other ⟨isOpen, listed⟩
    exact ⟨open_groupLinks.mp isOpen, listed⟩

/-- What a group holds it reaches. -/
theorem GroupHolds.reaches {gid : UInt32} {perm : PermissionId} (holds : store.GroupHolds gid perm) :
    store.GroupReaches gid perm := by
  obtain ⟨fuel, found⟩ := holds
  induction fuel generalizing perm with
  | zero => cases found
  | succ fuel ih =>
      dsimp only at found
      rw [groupHas_succ] at found
      cases direct : store.groupDirect gid perm with
      | some answer =>
          rw [direct] at found
          exact ⟨perm, .refl, direct.trans found⟩
      | none =>
          rw [direct, Option.none_or] at found
          obtain ⟨linked, listed, held⟩ := exists_of_anyM found
          obtain ⟨last, path, given⟩ := ih held
          exact ⟨last, path.tail ⟨direct, listed⟩, given⟩

/-- Where all questions come to an end, a group holds what it reaches. -/
theorem NoCircles.holds_of_reaches (circles : store.NoCircles) {gid : UInt32} {perm : PermissionId}
    (reaches : store.GroupReaches gid perm) : store.GroupHolds gid perm := by
  obtain ⟨last, path, given⟩ := reaches
  induction path with
  | refl =>
      refine ⟨1, ?_⟩
      dsimp only
      rw [groupHas_succ, given]
      rfl
  | @tail linked perm path passes ih =>
      have search := answers_anyM_true (fun fuel => store.groupHas fuel gid) (store.linksOf perm)
        (growing_groupHas gid) fun other _ => circles.group gid other
      obtain ⟨fuel, found⟩ := search.mpr ⟨linked, passes.2, ih⟩
      refine ⟨fuel + 1, ?_⟩
      dsimp only
      rw [groupHas_succ, passes.1]
      exact found

theorem groupsReach_of_groupsHave {uid : UInt32} {perm : PermissionId} {fuel : Nat}
    (found : store.groupsHave fuel (store.groupsOf uid) perm = some true) :
    store.GroupsReach uid perm := by
  obtain ⟨name, listed, held⟩ := exists_of_anyM found
  refine ⟨name, listed, ?_⟩
  cases known : store.users.groupByName name with
  | none =>
      rw [known] at held
      cases held
  | some group =>
      rw [known] at held
      exact ⟨group.gid, rfl, GroupHolds.reaches ⟨fuel, held⟩⟩

theorem NoCircles.named (circles : store.NoCircles) (name : Ustr) (perm : PermissionId) :
    ∃ answer, Answers (fun fuel => match store.users.groupByName name with
      | some group => store.groupHas fuel group.gid perm
      | none => some false) answer := by
  cases store.users.groupByName name with
  | none => exact ⟨false, 0, rfl⟩
  | some group => exact circles.group group.gid perm

theorem NoCircles.groupsHave (circles : store.NoCircles) (groups : List Ustr)
    (perm : PermissionId) : ∃ answer, Answers (store.groupsHave · groups perm) answer :=
  answers_anyM _ groups (fun name => growing_named name perm) fun name _ => circles.named name perm

theorem NoCircles.user (circles : store.NoCircles) (uid : UInt32) (perm : PermissionId) :
    ∃ answer, Answers (store.userHas · uid perm) answer := by
  have same (fuel : Nat) : store.userHas fuel uid perm = (store.userLinks uid).ask fuel perm :=
    userHas_eq_ask fuel uid perm
  simp only [same]
  apply Links.answered
  · exact growing_userDecided uid
  · intro other
    obtain ⟨held, fuel, asked⟩ := circles.groupsHave (store.groupsOf uid) other
    cases direct : store.userDirect uid other with
    | some answer =>
        refine ⟨some answer, 0, ?_⟩
        simp only [userLinks, userDecided, direct]
    | none =>
        refine ⟨if held then some true else none, fuel, ?_⟩
        simp only [userLinks, userDecided, direct, asked, Option.map_some]
  · apply Subrelation.wf _ (wellFounded_of_noCircle (circles.users uid))
    rintro linked perm ⟨isOpen, listed⟩
    refine ⟨?_, listed⟩
    have direct : store.userDirect uid perm = none := by
      cases direct : store.userDirect uid perm with
      | none => rfl
      | some answer =>
          apply absurd _ (isOpen 0 answer)
          simp only [userLinks, userDecided, direct]
    refine ⟨direct, ?_⟩
    rintro ⟨name, member, gid, known, reaches⟩
    obtain ⟨group, found, rfl⟩ := Option.map_eq_some_iff.mp known
    have search := answers_anyM_true _ (store.groupsOf uid) (fun name => growing_named name perm)
      fun name _ => circles.named name perm
    obtain ⟨fuel, asked⟩ : Answers (store.groupsHave · (store.groupsOf uid) perm) true := by
      apply search.mpr
      refine ⟨name, member, ?_⟩
      rw [found]
      exact circles.holds_of_reaches reaches
    apply absurd _ (isOpen fuel true)
    dsimp only at asked
    simp only [userLinks, userDecided, direct, asked, Option.map_some, if_true]

theorem NoCircles.terminates (circles : store.NoCircles) : store.Terminates :=
  ⟨circles.user, circles.group⟩

end Ends

/-! ## Orders -/

section Orders

namespace Reordered

theorem groupDirect (reordered : Reordered store other) (gid : UInt32) (perm : PermissionId) :
    other.groupDirect gid perm = store.groupDirect gid perm := by
  rw [← reordered.same]
  rfl

theorem userDirect (reordered : Reordered store other) (uid : UInt32) (perm : PermissionId) :
    other.userDirect uid perm = store.userDirect uid perm := by
  rw [← reordered.same]
  rfl

theorem groupPasses (reordered : Reordered store other) (gid : UInt32) :
    other.GroupPasses gid = store.GroupPasses gid := by
  funext linked perm
  rw [GroupPasses, GroupPasses, reordered.groupDirect, (reordered.links perm).mem_iff]

theorem groupsReach_iff (reordered : Reordered store other) (uid : UInt32) (perm : PermissionId) :
    other.GroupsReach uid perm ↔ store.GroupsReach uid perm := by
  have users : other.users = store.users := by
    rw [← reordered.same]
  simp only [GroupsReach, GroupReaches, groupsOf, users, reordered.groupPasses,
    reordered.groupDirect]

theorem userPasses (reordered : Reordered store other) (uid : UInt32) :
    other.UserPasses uid = store.UserPasses uid := by
  funext linked perm
  rw [UserPasses, UserPasses, reordered.userDirect, reordered.groupsReach_iff,
    (reordered.links perm).mem_iff]

theorem noCircles (reordered : Reordered store other) (circles : store.NoCircles) :
    other.NoCircles := by
  constructor
  · intro gid
    rw [reordered.groupPasses]
    exact circles.groups gid
  · intro uid
    rw [reordered.userPasses]
    exact circles.users uid

end Reordered

/-- The links with some permissions before all others. -/
def withFirst (among : PermissionId → Bool) (store : PermissionStore) : PermissionStore :=
  store.modify fun inner =>
    { inner with
      links := Maps.select (fun links =>
        some (links.filter among ++ links.filter (!among ·))) inner.links }

theorem linksOf_withFirst (among : PermissionId → Bool) (perm : PermissionId) :
    (store.withFirst among).linksOf perm =
      (store.linksOf perm).filter among ++ (store.linksOf perm).filter (!among ·) := by
  rw [linksOf, withFirst, modify, Maps.lookup_select, linksOf]
  cases store.inner.links.lookup perm <;> rfl

theorem reordered_withFirst (among : PermissionId → Bool) :
    Reordered store (store.withFirst among) := by
  constructor
  · rfl
  · intro perm
    rw [linksOf_withFirst]
    exact List.filter_append_perm _ _

/-- What comes first, where there is any. -/
theorem exists_first {among : PermissionId → Bool} {linked perm : PermissionId}
    (listed : linked ∈ store.linksOf perm) (inside : among linked) :
    ∃ first rest, (store.withFirst among).linksOf perm = first :: rest ∧ among first := by
  have listed : linked ∈ (store.linksOf perm).filter among := List.mem_filter.mpr ⟨listed, inside⟩
  rw [linksOf_withFirst]
  cases chosen : (store.linksOf perm).filter among with
  | nil =>
      rw [chosen] at listed
      cases listed
  | cons first rest =>
      have member : first ∈ (store.linksOf perm).filter among := by
        rw [chosen]
        exact List.mem_cons_self
      exact ⟨first, rest ++ (store.linksOf perm).filter (!among ·), rfl,
        (List.mem_filter.mp member).2⟩

/-- A circle goes on within the circles. -/
theorem exists_on_circle {passes : PermissionId → PermissionId → Prop} {perm : PermissionId}
    (circle : TransGen passes perm perm) : ∃ linked, passes linked perm ∧ TransGen passes linked linked := by
  obtain ⟨linked, path, step⟩ := TransGen.tail'_iff.mp circle
  exact ⟨linked, step, .head' step path⟩

open Classical in
/-- Where all questions come to an end in every order, none are passed on in circles. -/
theorem noCircles_of_terminates
    (terminates : ∀ other, Reordered store other → other.Terminates) : store.NoCircles := by
  constructor
  · intro gid perm circle
    let among (perm : PermissionId) : Bool := decide (TransGen (store.GroupPasses gid) perm perm)
    have passes (perm : PermissionId) (inside : among perm) :
        ((store.withFirst among).groupLinks gid).Open perm ∧
          ∃ first rest, (store.withFirst among).linksOf perm = first :: rest ∧ among first := by
      obtain ⟨linked, passes, next⟩ := exists_on_circle (of_decide_eq_true inside)
      exact ⟨open_groupLinks.mpr passes.1, exists_first passes.2 (decide_eq_true next)⟩
    obtain ⟨answer, fuel, found⟩ := (terminates _ (reordered_withFirst among)).groups gid perm
    dsimp only at found
    rw [groupHas_eq_ask, Links.ask_none passes fuel perm (decide_eq_true circle)] at found
    cases found
  · intro uid perm circle
    let among (perm : PermissionId) : Bool := decide (TransGen (store.UserPasses uid) perm perm)
    have passes (perm : PermissionId) (inside : among perm) :
        ((store.withFirst among).userLinks uid).Open perm ∧
          ∃ first rest, (store.withFirst among).linksOf perm = first :: rest ∧ among first := by
      obtain ⟨linked, passes, next⟩ := exists_on_circle (of_decide_eq_true inside)
      refine ⟨?_, exists_first passes.2 (decide_eq_true next)⟩
      intro fuel answer decided
      change (store.withFirst among).userDecided uid fuel perm = _ at decided
      rw [userDecided, (reordered_withFirst among).userDirect, passes.1.1] at decided
      obtain ⟨held, asked, same⟩ := Option.map_eq_some_iff.mp decided
      cases held with
      | false => cases same
      | true =>
          apply passes.1.2
          rw [← (reordered_withFirst among).groupsReach_iff]
          exact groupsReach_of_groupsHave asked
    obtain ⟨answer, fuel, found⟩ := (terminates _ (reordered_withFirst among)).users uid perm
    dsimp only at found
    rw [userHas_eq_ask, Links.ask_none passes fuel perm (decide_eq_true circle)] at found
    cases found

theorem terminates_iff :
    (∀ other, Reordered store other → other.Terminates) ↔ store.NoCircles :=
  ⟨noCircles_of_terminates, fun circles _ reordered => (reordered.noCircles circles).terminates⟩

/-- Links without circles cannot be followed in circles. -/
theorem LinksAcyclic.noCircles (acyclic : store.LinksAcyclic) : store.NoCircles := by
  constructor
  · intro gid perm circle
    have follows : store.GroupPasses gid ≤ fun linked perm => linked ∈ store.linksOf perm :=
      fun _ _ passes => passes.2
    exact acyclic perm (TransGen.mono follows perm perm circle)
  · intro uid perm circle
    have follows : store.UserPasses uid ≤ fun linked perm => linked ∈ store.linksOf perm :=
      fun _ _ passes => passes.2
    exact acyclic perm (TransGen.mono follows perm perm circle)

end Orders

/-! ## Calls of `link` -/

/-- A call of `link`, which admits or rejects it. -/
structure LinkCall where
  perm : UInt16
  parent : UInt16
  deriving DecidableEq, Repr

def linkAll (store : PermissionStore) (calls : List LinkCall) : PermissionStore :=
  Runs.run (fun store call => store.link call.perm call.parent) store calls

/-- No two different permissions are linked to each other. -/
def OneWay (store : PermissionStore) : Prop :=
  ∀ perm parent, parent ∈ store.linksOf perm → perm ∈ store.linksOf parent → perm = parent

section Calls

variable {perm parent : UInt16}

theorem linksOf_link (other : UInt16) :
    (store.link perm parent).linksOf other =
      if perm ∈ store.linksOf parent then store.linksOf other
      else if other = perm then (store.linksOf perm).insert parent
      else store.linksOf other := by
  rw [link]
  by_cases converse : perm ∈ store.linksOf parent
  · rw [if_pos (List.contains_iff_mem.mpr converse), if_pos converse]
  · rw [if_neg (fun found => converse (List.contains_iff_mem.mp found)), if_neg converse, modify,
      linksOf]
    by_cases same : other = perm
    · subst same
      rw [AList.lookup_insert, if_pos rfl, Option.getD_some]
    · rw [AList.lookup_insert_ne same, if_neg same, linksOf]

/-- What `link` turns away keeps links from going both ways. -/
theorem OneWay.link (oneWay : store.OneWay) : (store.link perm parent).OneWay := by
  intro first second forth back
  rw [linksOf_link] at forth back
  by_cases converse : perm ∈ store.linksOf parent
  · rw [if_pos converse] at forth back
    exact oneWay first second forth back
  · rw [if_neg converse] at forth back
    by_cases isFirst : first = perm
    · subst isFirst
      rw [if_pos rfl, List.mem_insert_iff] at forth
      by_cases isSecond : second = first
      · exact isSecond.symm
      · rw [if_neg isSecond] at back
        rcases forth with rfl | forth
        · exact absurd back converse
        · exact oneWay first second forth back
    · rw [if_neg isFirst] at forth
      by_cases isSecond : second = perm
      · subst isSecond
        rw [if_pos rfl, List.mem_insert_iff] at back
        rcases back with rfl | back
        · exact absurd forth converse
        · exact oneWay first second forth back
      · rw [if_neg isSecond] at back
        exact oneWay first second forth back

theorem OneWay.linkAll (oneWay : store.OneWay) (calls : List LinkCall) :
    (store.linkAll calls).OneWay := by
  induction calls generalizing store with
  | nil => exact oneWay
  | cons call rest ih => exact ih oneWay.link

end Calls

/-- After any calls of `link`, in whatever order links are tried, all questions come to an end
exactly where none is passed on in circles. -/
theorem linkAll_terminates_iff (store : PermissionStore) (calls : List LinkCall) :
    (∀ other, Reordered (store.linkAll calls) other → other.Terminates) ↔
      (store.linkAll calls).NoCircles :=
  terminates_iff

/-! ## A circle of three -/

def circleCalls : List LinkCall := [⟨1003, 1004⟩, ⟨1004, 1005⟩, ⟨1005, 1003⟩]

/-- A question about a group that is given nothing goes round in the circle. -/
theorem not_linkAll_terminates_circle :
    ¬ ∀ other, Reordered ((new networkUsers).linkAll circleCalls) other → other.Terminates := by
  intro terminates
  have circles := noCircles_of_terminates terminates
  have first : ((new networkUsers).linkAll circleCalls).GroupPasses 2000 1004 1003 := by
    constructor
    · decide +kernel
    · decide +kernel
  have second : ((new networkUsers).linkAll circleCalls).GroupPasses 2000 1005 1004 := by
    constructor
    · decide +kernel
    · decide +kernel
  have third : ((new networkUsers).linkAll circleCalls).GroupPasses 2000 1003 1005 := by
    constructor
    · decide +kernel
    · decide +kernel
  exact circles.groups 2000 1003 (((TransGen.single third).tail second).tail first)

end Rind.PermissionStore
