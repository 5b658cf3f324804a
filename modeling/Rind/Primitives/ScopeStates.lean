import Rind.Primitives.Scopes
import Rind.Prog.Runs

/-!
# Scopes of lifetime states

Several scopes can share a lifetime state, of which the store keeps one.  When a scope
gives its state up, the entry of the state goes, whichever scope it names.
-/

namespace Rind

/-- A change of the scope store. -/
inductive ScopeCall where
  | upsert (name : Ustr) (attributes : AList fun _ : Ustr => String)
      (lifetimeState : Option Ustr)
  | removeScope (scope : Ustr)

namespace ScopeCall

def scope : ScopeCall → Ustr
  | upsert name _ _ => name
  | removeScope scope => scope

/-- The lifetime state of the scope after the call. -/
def lifetimeState : ScopeCall → Option Ustr
  | upsert _ _ lifetimeState => lifetimeState
  | removeScope _ => none

end ScopeCall

namespace ScopeStore

def afterCall (store : ScopeStore) : ScopeCall → ScopeStore
  | .upsert name attributes lifetimeState => store.upsert name attributes lifetimeState
  | .removeScope scope => (store.removeScope scope).2

/-- A lifetime state of some scope finds such a scope. -/
def FindsStates (store : ScopeStore) : Prop :=
  ∀ state scope, store.lifetimeOf scope = some state →
    ∃ other, store.scopeForState state = some other ∧ store.lifetimeOf other = some state

/-- No other scope has the lifetime state that the scope of the call gives up. -/
def GivesUpOwn (store : ScopeStore) (call : ScopeCall) : Prop :=
  ∀ state, store.lifetimeOf call.scope = some state → call.lifetimeState ≠ some state →
    ∀ other, other ≠ call.scope → store.lifetimeOf other ≠ some state

variable {store : ScopeStore}

theorem lifetimeOf_afterCall (call : ScopeCall) (scope : Ustr) :
    (store.afterCall call).lifetimeOf scope =
      if scope = call.scope then call.lifetimeState else store.lifetimeOf scope := by
  cases call with
  | upsert name attributes lifetimeState => exact lifetimeOf_upsert
  | removeScope name => exact lifetimeOf_removeScope

theorem Tied.afterCall (tied : store.Tied) (call : ScopeCall) : (store.afterCall call).Tied := by
  cases call with
  | upsert name attributes lifetimeState => exact tied.upsert name attributes lifetimeState
  | removeScope name => exact tied.removeScope name

/-- What a state finds after a call: the scope of the call under its new state, nothing
under a state it has given up, and what was there under any other. -/
theorem scopeForState_afterCall (call : ScopeCall) (state : Ustr) :
    (store.afterCall call).scopeForState state =
      if call.lifetimeState = some state then some call.scope
      else if store.lifetimeOf call.scope = some state then none
      else store.scopeForState state := by
  cases call with
  | upsert name attributes lifetimeState =>
      have kept (apart : lifetimeState ≠ some state) :
          (store.withoutOldState name lifetimeState).lookup state =
            if store.lifetimeOf name = some state then none else store.scopeForState state := by
        rw [withoutOldState]
        cases store.lifetimeOf name with
        | none => rfl
        | some old =>
            by_cases same : old = state
            · subst same
              rw [if_pos rfl]
              dsimp only
              rw [if_neg (Ne.symm apart), AList.lookup_erase]
            · rw [if_neg (mt Option.some.inj same)]
              dsimp only
              split
              · rfl
              · exact AList.lookup_erase_ne (Ne.symm same)
      cases lifetimeState with
      | none => exact kept (Option.some_ne_none state).symm
      | some fresh =>
          by_cases same : fresh = state
          · subst same
            rw [ScopeCall.lifetimeState, if_pos rfl]
            exact AList.lookup_insert _
          · rw [ScopeCall.lifetimeState, if_neg (mt Option.some.inj same),
              ScopeCall.scope, ← kept (mt Option.some.inj same)]
            exact AList.lookup_insert_ne (Ne.symm same)
  | removeScope name =>
      rw [ScopeCall.lifetimeState, if_neg (Option.some_ne_none state).symm, ScopeCall.scope,
        afterCall, removeScope, lifetimeOf]
      cases store.scopes.lookup name with
      | none => rfl
      | some info =>
          obtain ⟨_, _, lifetimeState⟩ := info
          dsimp only [scopeForState, Option.bind_some]
          cases lifetimeState with
          | none => rfl
          | some old =>
              dsimp only
              by_cases same : old = state
              · rw [if_pos (congrArg some same), same, AList.lookup_erase]
              · rw [if_neg (mt Option.some.inj same), AList.lookup_erase_ne (Ne.symm same)]

/-- A call leaves each state findable exactly where no other scope needs the state that
its own scope gives up. -/
theorem findsStates_afterCall (tied : store.Tied) (finds : store.FindsStates) (call : ScopeCall) :
    (store.afterCall call).FindsStates ↔ store.GivesUpOwn call := by
  constructor
  · intro after state own given other apart needs
    obtain ⟨found, listed, -⟩ := after state other (by
      rw [lifetimeOf_afterCall, if_neg apart]
      exact needs)
    rw [scopeForState_afterCall, if_neg given, if_pos own] at listed
    cases listed
  · intro own state scope has
    have found : ∃ other, (store.afterCall call).scopeForState state = some other := by
      rw [scopeForState_afterCall]
      by_cases new : call.lifetimeState = some state
      · exact ⟨_, if_pos new⟩
      · have apart : scope ≠ call.scope := by
          rintro rfl
          rw [lifetimeOf_afterCall, if_pos rfl] at has
          exact new has
        rw [lifetimeOf_afterCall, if_neg apart] at has
        have other : store.lifetimeOf call.scope ≠ some state :=
          fun old => own state old new scope apart has
        rw [if_neg new, if_neg other]
        obtain ⟨found, listed, -⟩ := finds state scope has
        exact ⟨found, listed⟩
    obtain ⟨other, listed⟩ := found
    exact ⟨other, listed, tied.afterCall call state other listed⟩

/-- In every state of a sequence of calls the store finds scopes under their own states,
and each lifetime state of a scope finds one, exactly where no call gives up a state that
another scope has. -/
theorem tied_findsStates_iff (calls : List ScopeCall) :
    (∀ before, before <+: calls → (Runs.run afterCall empty before).Tied ∧
        (Runs.run afterCall empty before).FindsStates) ↔
      Runs.Along afterCall GivesUpOwn empty calls := by
  have initial : empty.Tied ∧ empty.FindsStates :=
    ⟨empty_tied, fun state scope has => absurd has (by simp [lifetimeOf, empty])⟩
  have keeps (store : ScopeStore) (call : ScopeCall) (holds : store.Tied ∧ store.FindsStates) :
      ((store.afterCall call).Tied ∧ (store.afterCall call).FindsStates) ↔
        store.GivesUpOwn call := by
    rw [← findsStates_afterCall holds.1 holds.2 call]
    exact and_iff_right (holds.1.afterCall call)
  exact (Runs.along_iff keeps calls initial).symm

/-- Of two scopes with one state, one is removed. -/
theorem not_findsStates_shared : ¬ (Runs.run afterCall empty
    [.upsert "a" ∅ (some "s"), .upsert "b" ∅ (some "s"), .removeScope "a"]).FindsStates := by
  intro finds
  obtain ⟨other, listed, -⟩ := finds "s" "b" (by decide)
  cases (show none = some other from listed)

end ScopeStore

end Rind
