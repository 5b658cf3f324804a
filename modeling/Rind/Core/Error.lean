import Rind.Core.Names
import Mathlib.Data.List.Forall2

/-!
# Errors

The errors of the routines, and the texts they are shown with.
-/

namespace Rind

/-- The errors of logins and sessions. -/
inductive PamError where
  | userNotFound
  | accountLocked
  | accountExpired
  | passwordExpired
  | authenticationFailed
  | maxRetriesExceeded
  | sessionError (text : String)
  | internalError (text : String)
  deriving DecidableEq, Repr

def PamError.text : PamError → String
  | .userNotFound => "user not found"
  | .accountLocked => "account is locked"
  | .accountExpired => "account has expired"
  | .passwordExpired => "password has expired"
  | .authenticationFailed => "authentication failed"
  | .maxRetriesExceeded => "maximum login retries exceeded"
  | .sessionError text => "session error: " ++ text
  | .internalError text => "internal error: " ++ text

/-- The errors the modelled routines raise. -/
inductive CoreError where
  | parseError (text : String)
  | dependencyCycle (ids : List String)
  | duplicatePermissions (id : UInt16) (name : String)
  | permissionDenied
  | pamError (error : PamError)
  | notFound (text : String)
  | invalidState (text : String)
  | metadataNotFound (name : String)
  | missingInstances (name : String)
  | missingField (path : String)
  | typeMismatch (path expected : String)
  | doubleKey
  | runtimeStopped
  | unknown
  | custom (text : String)
  | ioError (text : String)
  deriving DecidableEq, Repr

/-- The text an error is shown with. -/
def CoreError.text : CoreError → String
  | .parseError text => "parse error: " ++ text
  | .dependencyCycle ids => "dependency cycle: " ++ " -> ".intercalate ids
  | .duplicatePermissions id name =>
      "duplicate permissions for \x60" ++ toString id.toNat ++ "\x60. already registered as " ++ name
  | .permissionDenied => "Permission Denied"
  | .pamError error => error.text
  | .notFound text => text ++ " not found"
  | .invalidState text => "invalid state: " ++ text
  | .metadataNotFound name => "metadata " ++ name ++ " not found"
  | .missingInstances name => "metadata or instance " ++ name ++ " not found"
  | .missingField path => "missing field \x60" ++ path ++ "\x60"
  | .typeMismatch path expected => "type mismatch for \x60" ++ path ++ "\x60, expected " ++ expected
  | .doubleKey => "Double key"
  | .runtimeStopped => "runtime stopped"
  | .unknown => "Unknown error"
  | .custom text => text
  | .ioError text => text

/-! ## Fallible steps -/

theorem ok_bind {ε α β : Type} (value : α) (next : α → Except ε β) :
    (.ok value : Except ε α) >>= next = next value := rfl

/-- A chain of steps succeeds if each of its steps does. -/
theorem bind_eq_ok {ε α β : Type} {first : Except ε α} {next : α → Except ε β} {result : β} :
    first >>= next = .ok result ↔ ∃ value, first = .ok value ∧ next value = .ok result := by
  cases first with
  | error error => simp [bind, Except.bind]
  | ok value => simp [bind, Except.bind]

/-- A chain of steps fails with the error of one of its steps. -/
theorem bind_eq_error {ε α β : Type} {first : Except ε α} {next : α → Except ε β} {err : ε} :
    first >>= next = .error err ↔
      first = .error err ∨ ∃ value, first = .ok value ∧ next value = .error err := by
  cases first with
  | error error => simp [bind, Except.bind]
  | ok value => simp [bind, Except.bind]

/-- A step that does not fail. -/
def IsOk {ε α : Type} (outcome : Except ε α) : Prop := ∃ value, outcome = .ok value

section IsOk

variable {ε α β : Type} {err : ε}

theorem isOk_ok (value : α) : IsOk (.ok value : Except ε α) := ⟨value, rfl⟩

theorem not_isOk_error : ¬ IsOk (.error err : Except ε α) := by
  rintro ⟨value, failed⟩
  cases failed

/-- A step that only checks something. -/
theorem isOk_ite_iff {guard : Prop} [Decidable guard] {value : α} :
    IsOk (if guard then .ok value else .error err) ↔ guard := by
  split
  · exact iff_of_true (isOk_ok value) ‹_›
  · exact iff_of_false not_isOk_error ‹_›

/-- A chain of steps where it does not depend on the value of the first one whether the
others fail. -/
theorem isOk_bind_iff {first : Except ε α} {next : α → Except ε β} {later : Prop}
    (rest : ∀ value, first = .ok value → (IsOk (next value) ↔ later)) :
    IsOk (first >>= next) ↔ IsOk first ∧ later := by
  cases first with
  | error err => exact iff_of_false not_isOk_error fun both => not_isOk_error both.1
  | ok value =>
      rw [ok_bind, rest value rfl]
      exact (and_iff_right (isOk_ok value)).symm

/-- A chain that ends with a value. -/
theorem isOk_bind_pure_iff {first : Except ε α} {view : α → β} :
    IsOk (first >>= fun value => pure (view value)) ↔ IsOk first :=
  (isOk_bind_iff fun value _ => iff_true_intro (isOk_ok (view value))).trans (iff_of_eq (and_true _))

end IsOk

/-- A list of steps fails with the error of one of them. -/
theorem exists_of_mapM_error {ε α β : Type} {step : α → Except ε β} {items : List α} {err : ε}
    (failed : items.mapM step = .error err) : ∃ item ∈ items, step item = .error err := by
  induction items with
  | nil => cases failed
  | cons item rest ih =>
      rw [List.mapM_cons] at failed
      rcases bind_eq_error.mp failed with first | ⟨value, -, others⟩
      · exact ⟨item, List.mem_cons_self, first⟩
      · rcases bind_eq_error.mp others with later | ⟨values, -, done⟩
        · obtain ⟨other, listed, found⟩ := ih later
          exact ⟨other, List.mem_cons_of_mem _ listed, found⟩
        · cases done

/-- A list of steps succeeds with the results of its steps. -/
theorem forall₂_of_mapM {ε α β : Type} {step : α → Except ε β} {items : List α} {results : List β}
    (succeeded : items.mapM step = .ok results) :
    List.Forall₂ (fun item result => step item = .ok result) items results := by
  induction items generalizing results with
  | nil =>
      cases succeeded
      exact .nil
  | cons item rest ih =>
      rw [List.mapM_cons] at succeeded
      obtain ⟨first, stepped, succeeded⟩ := bind_eq_ok.mp succeeded
      obtain ⟨others, mapped, succeeded⟩ := bind_eq_ok.mp succeeded
      cases succeeded
      exact .cons stepped (ih mapped)

end Rind
