import Rind.Core.Names
import Mathlib.Data.List.AList

/-!
# Scopes

The store of the scopes.  A scope can end with a facet, its lifetime state, and the
store finds the scope of a state through a map of its own.
-/

namespace Rind

structure ScopeInfo where
  name : Ustr
  attributes : AList fun _ : Ustr => String
  lifetimeState : Option Ustr

structure ScopeStore where
  scopes : AList fun _ : Ustr => ScopeInfo
  stateToScope : AList fun _ : Ustr => Ustr
  pendingScopes : List Ustr

namespace ScopeStore

def empty : ScopeStore := ⟨∅, ∅, []⟩

variable (store : ScopeStore)

/-- The lifetime state of a scope. -/
def lifetimeOf (scope : Ustr) : Option Ustr :=
  (store.scopes.lookup scope).bind ScopeInfo.lifetimeState

/-- The scopes by their states, without the state that a scope has given up. -/
def withoutOldState (name : Ustr) (lifetimeState : Option Ustr) : AList fun _ : Ustr => Ustr :=
  match store.lifetimeOf name with
  | some old =>
      if some old = lifetimeState then store.stateToScope else store.stateToScope.erase old
  | none => store.stateToScope

def upsert (name : Ustr) (attributes : AList fun _ : Ustr => String)
    (lifetimeState : Option Ustr) : ScopeStore where
  scopes := store.scopes.insert name ⟨name, attributes, lifetimeState⟩
  stateToScope :=
    match lifetimeState with
    | some state => (store.withoutOldState name lifetimeState).insert state name
    | none => store.withoutOldState name lifetimeState
  pendingScopes := store.pendingScopes

/-- Whether there was such a scope, and the store without it. -/
def removeScope (scope : Ustr) : Bool × ScopeStore :=
  match store.scopes.lookup scope with
  | none => (false, store)
  | some info =>
      (true, { store with
        scopes := store.scopes.erase scope
        stateToScope :=
          match info.lifetimeState with
          | some state => store.stateToScope.erase state
          | none => store.stateToScope })

def scopeForState (state : Ustr) : Option Ustr := store.stateToScope.lookup state

/-- The store finds scopes under their own lifetime states only. -/
def Tied : Prop := ∀ state scope, store.scopeForState state = some scope →
  store.lifetimeOf scope = some state

theorem empty_tied : empty.Tied := by
  intro state scope found
  cases found

variable {store}

theorem lifetimeOf_upsert {name scope : Ustr} {attributes : AList fun _ : Ustr => String}
    {lifetimeState : Option Ustr} :
    (store.upsert name attributes lifetimeState).lifetimeOf scope =
      if scope = name then lifetimeState else store.lifetimeOf scope := by
  simp only [lifetimeOf, upsert]
  by_cases same : scope = name
  · subst same
    simp
  · simp [AList.lookup_insert_ne same, same]

/-- Removing a scope removes no other scope. -/
theorem lookup_removeScope {name scope : Ustr} :
    (store.removeScope name).2.scopes.lookup scope =
      if scope = name then none else store.scopes.lookup scope := by
  rw [removeScope]
  by_cases same : scope = name
  · subst same
    cases found : store.scopes.lookup scope with
    | none => simp [found]
    | some info => simp
  · cases found : store.scopes.lookup name with
    | none => simp [same]
    | some info => simp [AList.lookup_erase_ne same, same]

theorem lifetimeOf_removeScope {name scope : Ustr} :
    (store.removeScope name).2.lifetimeOf scope =
      if scope = name then none else store.lifetimeOf scope := by
  rw [lifetimeOf, lookup_removeScope]
  split <;> rfl

/-- An entry that is left is not about the scope, unless its state stays the same. -/
theorem of_lookup_withoutOldState {name state scope : Ustr} {lifetimeState : Option Ustr}
    (kept : (store.withoutOldState name lifetimeState).lookup state = some scope) :
    store.scopeForState state = some scope ∧
      (store.lifetimeOf name = some state → lifetimeState = some state) := by
  rw [withoutOldState] at kept
  cases ended : store.lifetimeOf name with
  | none =>
      rw [ended] at kept
      exact ⟨kept, nofun⟩
  | some old =>
      simp only [ended] at kept
      split at kept
      · next same => exact ⟨kept, fun own => same.symm.trans own⟩
      · have apart : state ≠ old := by
          rintro rfl
          rw [AList.lookup_erase] at kept
          cases kept
        rw [AList.lookup_erase_ne apart] at kept
        exact ⟨kept, fun own => absurd (Option.some.inj own).symm apart⟩

theorem Tied.upsert (tied : store.Tied) (name : Ustr) (attributes : AList fun _ : Ustr => String)
    (lifetimeState : Option Ustr) : (store.upsert name attributes lifetimeState).Tied := by
  intro state scope found
  rw [lifetimeOf_upsert]
  have left : lifetimeState = some state ∧ scope = name ∨
      store.scopeForState state = some scope ∧
        (store.lifetimeOf name = some state → lifetimeState = some state) := by
    simp only [scopeForState, ScopeStore.upsert] at found
    cases lifetimeState with
    | none => exact .inr (of_lookup_withoutOldState found)
    | some fresh =>
        by_cases same : state = fresh
        · subst same
          rw [AList.lookup_insert] at found
          cases found
          exact .inl ⟨rfl, rfl⟩
        · rw [AList.lookup_insert_ne same] at found
          exact .inr (of_lookup_withoutOldState found)
  rcases left with ⟨fresh, rfl⟩ | ⟨old, kept⟩
  · rw [if_pos rfl, fresh]
  · have own := tied state scope old
    split
    · next same =>
        subst same
        exact kept own
    · exact own

theorem Tied.removeScope (tied : store.Tied) (name : Ustr) : (store.removeScope name).2.Tied := by
  intro state scope found
  rw [lifetimeOf_removeScope]
  cases known : store.scopes.lookup name with
  | none =>
      rw [ScopeStore.removeScope, known] at found
      have own := tied state scope found
      have apart : scope ≠ name := by
        rintro rfl
        simp [lifetimeOf, known] at own
      rw [if_neg apart, own]
  | some info =>
      have kept : store.scopeForState state = some scope ∧ info.lifetimeState ≠ some state := by
        rw [ScopeStore.removeScope, known] at found
        dsimp only [scopeForState] at found
        cases ended : info.lifetimeState with
        | none =>
            rw [ended] at found
            exact ⟨found, nofun⟩
        | some old =>
            simp only [ended] at found
            have apart : state ≠ old := by
              rintro rfl
              rw [AList.lookup_erase] at found
              cases found
            rw [AList.lookup_erase_ne apart] at found
            exact ⟨found, fun same => apart (Option.some.inj same).symm⟩
      have own := tied state scope kept.1
      have apart : scope ≠ name := by
        rintro rfl
        rw [lifetimeOf, known] at own
        exact kept.2 own
      rw [if_neg apart, own]

end ScopeStore

end Rind
