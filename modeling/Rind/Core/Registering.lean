import Rind.Core.Permissions
import Rind.Prog.Runs

/-!
# Names of permissions

A permission is registered under an id and a name, in a map for each direction.  Only
the id is looked at before both maps are written.
-/

namespace Rind

namespace PermissionStore

variable (store : PermissionStore)

/-- Write both maps. -/
def register (id : UInt16) (name : Ustr) : PermissionStore :=
  { store with byId := store.byId.insert id name, byName := store.byName.insert name id }

def newPerm (name : Ustr) (id : UInt16) : Except CoreError PermissionId × PermissionStore :=
  match store.byId.lookup id with
  | some held => (.error (.duplicatePermissions id held), store)
  | none => (.ok id, store.register id name)

def regPerm (perm : PermissionId) (name : Ustr) : Except CoreError Unit × PermissionStore :=
  match store.byId.lookup perm with
  | some held => (.error (.duplicatePermissions perm held), store)
  | none => (.ok (), store.register perm name)

end PermissionStore

/-- A permission that is registered, by one of the two routines. -/
inductive RegisterCall where
  | newPerm (name : Ustr) (id : UInt16)
  | regPerm (perm : PermissionId) (name : Ustr)
  deriving DecidableEq, Repr

namespace RegisterCall

def id : RegisterCall → UInt16
  | newPerm _ id => id
  | regPerm perm _ => perm

def name : RegisterCall → Ustr
  | newPerm name _ => name
  | regPerm _ name => name

end RegisterCall

namespace PermissionStore

/-- Whether a call goes through, and the store after it. -/
def callPerm (store : PermissionStore) : RegisterCall → Bool × PermissionStore
  | .newPerm name id => ((store.newPerm name id).1.toBool, (store.newPerm name id).2)
  | .regPerm perm name => ((store.regPerm perm name).1.toBool, (store.regPerm perm name).2)

def afterCall (store : PermissionStore) (call : RegisterCall) : PermissionStore :=
  (store.callPerm call).2

/-- The two maps are inverse, and what is registered is resolved by its name. -/
structure Inverse (store : PermissionStore) : Prop where
  inverse : ∀ id name, store.byId.lookup id = some name ↔ store.byName.lookup name = some id
  resolved : ∀ id name, store.byId.lookup id = some name → store.fromName name = some id

/-- A call that fails has changed neither map. -/
def FailsUnchanged (store : PermissionStore) (call : RegisterCall) : Prop :=
  (store.callPerm call).1 = false →
    (store.afterCall call).byId = store.byId ∧ (store.afterCall call).byName = store.byName

/-- The id is known, or the name is not and does not stand for every permission. -/
def NewName (store : PermissionStore) (call : RegisterCall) : Prop :=
  (store.byId.lookup call.id).isSome ∨
    store.byName.lookup call.name = none ∧ (call.name = "any" → call.id = 0)

variable {store : PermissionStore}

/-- A call registers a permission exactly where the id is not known. -/
theorem callPerm_eq (call : RegisterCall) : store.callPerm call =
    match store.byId.lookup call.id with
    | some _ => (false, store)
    | none => (true, store.register call.id call.name) := by
  cases call with
  | newPerm name id =>
      rw [callPerm, newPerm, RegisterCall.id]
      cases store.byId.lookup id <;> rfl
  | regPerm perm name =>
      rw [callPerm, regPerm, RegisterCall.id]
      cases store.byId.lookup perm <;> rfl

theorem failsUnchanged (call : RegisterCall) : store.FailsUnchanged call := by
  intro fails
  rw [afterCall]
  rw [callPerm_eq] at fails ⊢
  cases known : store.byId.lookup call.id with
  | some held => exact ⟨rfl, rfl⟩
  | none =>
      rw [known] at fails
      cases fails

/-- A permission with a new id keeps the maps inverse exactly where its name is new. -/
theorem Inverse.register_iff (holds : store.Inverse) {id : UInt16} {name : Ustr}
    (fresh : store.byId.lookup id = none) :
    (store.register id name).Inverse ↔
      store.byName.lookup name = none ∧ (name = "any" → id = 0) := by
  constructor
  · rintro ⟨inverse, resolved⟩
    constructor
    · cases held : store.byName.lookup name with
      | none => rfl
      | some other =>
          have listed := (holds.inverse other name).mpr held
          have ne : other ≠ id := by
            rintro rfl
            rw [fresh] at listed
            cases listed
          have both := (inverse other name).mp (by
            rw [register, AList.lookup_insert_ne ne]
            exact listed)
          rw [register, AList.lookup_insert] at both
          exact absurd (Option.some.inj both).symm ne
    · rintro rfl
      have any := resolved id "any" (AList.lookup_insert _)
      exact (Option.some.inj any).symm
  · rintro ⟨free, isAny⟩
    have inverse (other : UInt16) (label : Ustr) :
        (store.register id name).byId.lookup other = some label ↔
          (store.register id name).byName.lookup label = some other := by
      rw [register]
      by_cases sameId : other = id
      · subst sameId
        rw [AList.lookup_insert]
        by_cases sameName : label = name
        · subst sameName
          rw [AList.lookup_insert]
          exact iff_of_true rfl rfl
        · rw [AList.lookup_insert_ne sameName, ← holds.inverse, fresh]
          constructor
          · intro same
            exact absurd (Option.some.inj same).symm sameName
          · intro none_
            cases none_
      · rw [AList.lookup_insert_ne sameId, holds.inverse]
        by_cases sameName : label = name
        · subst sameName
          rw [AList.lookup_insert, free]
          constructor
          · intro none_
            cases none_
          · intro same
            exact absurd (Option.some.inj same).symm sameId
        · rw [AList.lookup_insert_ne sameName]
    refine ⟨inverse, fun other label listed => ?_⟩
    rw [fromName]
    split
    · next isName =>
        by_cases same : other = id
        · subst same
          rw [register, AList.lookup_insert] at listed
          rw [isAny ((Option.some.inj listed).trans isName)]
        · rw [register, AList.lookup_insert_ne same] at listed
          have earlier := holds.resolved other label listed
          rwa [fromName, if_pos isName] at earlier
    · exact (inverse other label).mp listed

theorem Inverse.afterCall_iff (holds : store.Inverse) (call : RegisterCall) :
    (store.afterCall call).Inverse ↔ store.NewName call := by
  rw [afterCall, callPerm_eq, NewName]
  cases known : store.byId.lookup call.id with
  | some held => exact iff_of_true holds (.inl rfl)
  | none =>
      rw [holds.register_iff known]
      exact (or_iff_right Bool.false_ne_true).symm

theorem inverse_new (users : UserStore) : (new users).Inverse := by
  constructor
  · intro id name
    simp [new]
  · intro id name listed
    cases listed

/-- In every state of a sequence of calls the maps are inverse, and a call that fails
changes neither of them, exactly where each call that goes through has a new name. -/
theorem inverse_iff_newName (users : UserStore) (calls : List RegisterCall) :
    (∀ before, before <+: calls → (Runs.run afterCall (new users) before).Inverse ∧
        ∀ call, (Runs.run afterCall (new users) before).FailsUnchanged call) ↔
      Runs.Along afterCall NewName (new users) calls := by
  rw [Runs.along_iff (fun store call holds => holds.afterCall_iff call) calls (inverse_new users)]
  exact forall₂_congr fun before _ => and_iff_left fun call => failsUnchanged call

/-- A name that is registered again with another id. -/
theorem not_inverse_twice : ¬ ∀ before,
    before <+: [.newPerm "Login" 1001, .regPerm 1002 "Login"] →
      (Runs.run afterCall (new .empty) before).Inverse := by
  intro inverse
  have both := (inverse _ List.prefix_rfl).inverse 1001 "Login"
  exact absurd (both.mp (by decide)) (by decide)

end PermissionStore

end Rind
