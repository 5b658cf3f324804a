import Rind.Core.Revocation

/-!
# The permissions of a subject

`all` lists what the files give a user or a group and what is granted to it, without what is
revoked.  The names are taken out of a copy of the registered ones, so that a permission that
comes twice has lost its name the second time.
-/

namespace Rind.PermissionStore

variable (store : PermissionStore)

/-- The name a permission is registered with. -/
def registeredName (perm : PermissionId) : Ustr := (store.byId.lookup perm).getD "unknown"

/-- The permissions that the files give a user or a group. -/
def filePermissions (id : UInt32) : (group : Bool) → Option (List UInt16)
  | false => (store.users.lookupByUid id).map UserRecord.permissions
  | true => (store.users.group id).map GroupEntry.permissions

def grantsTo : (group : Bool) → Overlay
  | false => store.inner.overlayUidGrants
  | true => store.inner.overlayGidGrants

def revokesFrom : (group : Bool) → Overlay
  | false => store.inner.overlayUidRevokes
  | true => store.inner.overlayGidRevokes

/-- What the files give a subject and what is granted to it, without what is revoked. -/
def directly (id : UInt32) (group : Bool) (perms : List UInt16) : List UInt16 :=
  (perms ++ (store.grantsTo group).of id).filter fun perm => !(store.revokesFrom group).has id perm

/-- The name that a permission is listed with: its own one, if it comes once. -/
def listedName (perms : List UInt16) (perm : PermissionId) : Ustr :=
  if perms.count perm ≤ 1 then store.registeredName perm else "unknown"

/-- A subject of the files is listed with exactly the permissions that it holds directly, each
once and with its registered name. -/
def ListsDirectly (id : UInt32) (group : Bool) : Prop :=
  ∀ perms, store.filePermissions id group = some perms →
    ∃ listed, store.all (some id) group = .ok listed ∧ (listed.map Prod.fst).Nodup ∧
      (∀ perm, perm ∈ listed.map Prod.fst ↔
        (perm ∈ perms ∨ (store.grantsTo group).has id perm) ∧
          ¬ (store.revokesFrom group).has id perm) ∧
      ∀ entry ∈ listed, entry.2.1 = store.registeredName entry.1

/-! ## Names -/

section Names

variable {store} {perm : PermissionId}

/-- A name is given to a permission that comes once, and is missing when it comes again. -/
theorem lookup_foldl_named (perms : List UInt16) (copy result : AList fun _ : UInt16 => Ustr) :
    (perms.foldl (fun (state : (AList fun _ : UInt16 => Ustr) × AList fun _ : UInt16 => Ustr) perm =>
        (state.1.erase perm, state.2.insert perm ((state.1.lookup perm).getD "unknown")))
      (copy, result)).2.lookup perm =
      if perm ∈ perms then
        some (if perms.count perm ≤ 1 then (copy.lookup perm).getD "unknown" else "unknown")
      else result.lookup perm := by
  induction perms generalizing copy result with
  | nil => rfl
  | cons first rest ih =>
      rw [List.foldl_cons, ih]
      by_cases same : perm = first
      · subst same
        rw [AList.lookup_erase, AList.lookup_insert, if_pos List.mem_cons_self, List.count_cons_self]
        by_cases again : perm ∈ rest
        · have more : ¬ rest.count perm + 1 ≤ 1 := by
            have := List.count_pos_iff.mpr again
            omega
          rw [if_pos again, if_neg more]
          simp
        · rw [if_neg again, List.count_eq_zero_of_not_mem again, if_pos (Nat.le_refl 1)]
      · rw [AList.lookup_erase_ne same, AList.lookup_insert_ne same,
          List.count_cons_of_ne (Ne.symm same)]
        simp only [List.mem_cons, same, false_or]

theorem lookup_named (perms : List UInt16) :
    (store.named perms).lookup perm =
      if perm ∈ perms then some (store.listedName perms perm) else none := by
  rw [named, lookup_foldl_named, AList.lookup_empty, listedName, registeredName]

theorem all_eq {id : UInt32} {group : Bool} {perms : List UInt16}
    (given : store.filePermissions id group = some perms) :
    store.all (some id) group =
      .ok ((store.named (store.directly id group perms)).entries.map fun entry =>
        (entry.1, entry.2, store.inner.groups.lookup entry.1)) := by
  cases group with
  | false =>
      obtain ⟨user, found, rfl⟩ := Option.map_eq_some_iff.mp given
      simp only [all, found]
      rfl
  | true =>
      obtain ⟨group, found, rfl⟩ := Option.map_eq_some_iff.mp given
      simp only [all, found]
      rfl

theorem mem_directly {id : UInt32} {group : Bool} {perms : List UInt16} :
    perm ∈ store.directly id group perms ↔
      (perm ∈ perms ∨ (store.grantsTo group).has id perm) ∧
        ¬ (store.revokesFrom group).has id perm := by
  rw [directly, List.mem_filter, List.mem_append, Overlay.has_iff, Bool.not_eq_true',
    Bool.not_eq_true]

end Names

/-! ## What is listed -/

section Listed

variable {store} {id : UInt32} {group : Bool} {perms : List UInt16}

/-- What is listed for a subject of the files. -/
theorem mem_listed {perm : UInt16} {name : Ustr} {held : Option Ustr} :
    (perm, name, held) ∈ (store.named (store.directly id group perms)).entries.map (fun entry =>
        (entry.1, entry.2, store.inner.groups.lookup entry.1)) ↔
      perm ∈ store.directly id group perms ∧
        name = store.listedName (store.directly id group perms) perm ∧
        held = store.inner.groups.lookup perm := by
  rw [List.mem_map]
  constructor
  · rintro ⟨⟨perm', name'⟩, listed, same⟩
    cases same
    have found := AList.mem_lookup_iff.mpr listed
    rw [Option.mem_def, lookup_named] at found
    split at found
    · rename_i inside
      cases found
      exact ⟨inside, rfl, rfl⟩
    · cases found
  · rintro ⟨inside, rfl, rfl⟩
    refine ⟨⟨perm, store.listedName (store.directly id group perms) perm⟩,
      AList.mem_lookup_iff.mp ?_, rfl⟩
    rw [Option.mem_def, lookup_named, if_pos inside]

/-- All that a subject holds directly is listed once with its name exactly where no permission
with a name comes twice, from the files and by a grant. -/
theorem listsDirectly_iff (store : PermissionStore) (id : UInt32) (group : Bool) :
    store.ListsDirectly id group ↔
      ∀ perms, store.filePermissions id group = some perms →
        ∀ perm name, store.byId.lookup perm = some name → name ≠ "unknown" →
          (store.directly id group perms).count perm ≤ 1 := by
  constructor
  · intro lists perms given perm name registered known
    obtain ⟨listed, answered, -, -, named⟩ := lists perms given
    rw [all_eq given, Except.ok.injEq] at answered
    subst answered
    by_contra twice
    have inside : perm ∈ store.directly id group perms :=
      List.count_pos_iff.mp (Nat.lt_of_lt_of_le Nat.one_pos (Nat.le_of_not_le twice))
    have lost : (perm, "unknown", store.inner.groups.lookup perm) ∈ _ :=
      mem_listed.mpr ⟨inside, (if_neg twice).symm, rfl⟩
    have right := named _ lost
    rw [registeredName, registered, Option.getD_some] at right
    exact known right.symm
  · intro once perms given
    refine ⟨_, all_eq given, ?_, ?_, ?_⟩
    · rw [List.map_map]
      exact (store.named (store.directly id group perms)).nodupKeys
    · intro perm
      rw [← mem_directly, List.mem_map]
      constructor
      · rintro ⟨⟨other, name, held⟩, listed, rfl⟩
        exact (mem_listed.mp listed).1
      · intro inside
        exact ⟨_, mem_listed.mpr ⟨inside, rfl, rfl⟩, rfl⟩
    · rintro ⟨perm, name, held⟩ listed
      rw [(mem_listed.mp listed).2.1, listedName]
      split
      · rfl
      · rename_i twice
        rw [registeredName]
        cases registered : store.byId.lookup perm with
        | none => rfl
        | some name =>
            by_contra known
            exact twice (once perms given perm name registered (Ne.symm known))

end Listed

/-! ## A permission that comes twice -/

/-- An account that the files give a permission that is granted to it as well. -/
def grantedTwice : PermissionStore :=
  { (new (.ofRecords [⟨"makano", 1000, 1000, "makano", "/home/makano", "/bin/sh", []⟩] [] []
      [⟨true, 1000, [1001]⟩])).grantUser 1000 1001 with
    byId := AList.singleton 1001 "Login" }

theorem not_listsDirectly_twice : ¬ grantedTwice.ListsDirectly 1000 false := by
  intro lists
  have given : grantedTwice.filePermissions 1000 false = some [1001] := by decide +kernel
  obtain ⟨listed, answered, -, -, named⟩ := lists [1001] given
  have unknown : grantedTwice.all (some 1000) false = .ok [(1001, "unknown", none)] := by
    decide +kernel
  rw [unknown, Except.ok.injEq] at answered
  subst answered
  have right := named _ List.mem_cons_self
  exact absurd right (by decide +kernel)

end Rind.PermissionStore
