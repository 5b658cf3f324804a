import Mathlib.Data.List.Basic
import Rind.Data.Dependencies
import Rind.Prog.Fuel

/-!
# Documents that refer to documents

Each part of a document is an entry of its own, or refers to another document, the
entries of which stand in its place.  An expansion is asked for with fuel, since documents may refer
to one another in circles.
-/

namespace Rind

/-- Documents with their parts, in order. -/
structure Documents (α β : Type) where
  parts : α → List (β ⊕ α)

namespace Documents

open Fuel

variable {α β : Type} (docs : Documents α β)

/-- One document refers to another one. -/
def Refers (doc other : α) : Prop := .inr other ∈ docs.parts doc

/-- The entries of some parts, where those of each document are known. -/
def expandParts (expand : α → Option (List β)) : List (β ⊕ α) → Option (List β)
  | [] => some []
  | .inl entry :: rest => (expandParts expand rest).map (entry :: ·)
  | .inr doc :: rest => (expand doc).bind fun first => (expandParts expand rest).map (first ++ ·)

/-- The entries of a document, with those of the documents it refers to in place. -/
def expand : Nat → α → Option (List β)
  | 0, _ => none
  | fuel + 1, doc => expandParts (expand fuel) (docs.parts doc)

variable {docs}

theorem expandParts_mono {first second : α → Option (List β)}
    (stays : ∀ doc entries, first doc = some entries → second doc = some entries)
    {parts : List (β ⊕ α)} {entries : List β} (found : expandParts first parts = some entries) :
    expandParts second parts = some entries := by
  induction parts generalizing entries with
  | nil => exact found
  | cons part rest ih =>
      cases part with
      | inl entry =>
          obtain ⟨others, expanded, rfl⟩ := Option.map_eq_some_iff.mp found
          rw [expandParts, ih expanded]
          rfl
      | inr doc =>
          obtain ⟨own, asked, found⟩ := Option.bind_eq_some_iff.mp found
          obtain ⟨others, expanded, rfl⟩ := Option.map_eq_some_iff.mp found
          rw [expandParts, stays doc own asked, ih expanded]
          rfl

theorem growing_expand (doc : α) : Growing (docs.expand · doc) := by
  intro fuel
  induction fuel generalizing doc with
  | zero => exact fun _ found => nomatch found
  | succ fuel ih => exact fun _ found => expandParts_mono ih found

/-- Parts are expanded only if each document among them is. -/
theorem expandParts_isSome {expand : α → Option (List β)} {parts : List (β ⊕ α)} {entries : List β}
    (found : expandParts expand parts = some entries) {doc : α} (listed : .inr doc ∈ parts) :
    ∃ own, expand doc = some own := by
  induction parts generalizing entries with
  | nil => cases listed
  | cons part rest ih =>
      cases part with
      | inl entry =>
          obtain ⟨others, expanded, -⟩ := Option.map_eq_some_iff.mp found
          exact ih expanded (by simpa using listed)
      | inr first =>
          obtain ⟨own, asked, found⟩ := Option.bind_eq_some_iff.mp found
          obtain ⟨others, expanded, -⟩ := Option.map_eq_some_iff.mp found
          rcases List.mem_cons.mp listed with same | later
          · cases same
            exact ⟨own, asked⟩
          · exact ih expanded later

/-- Parts are expanded with enough fuel for each document among them. -/
theorem answers_expandParts {parts : List (β ⊕ α)}
    (answered : ∀ doc, .inr doc ∈ parts → ∃ own, Answers (docs.expand · doc) own) :
    ∃ entries, Answers (fun fuel => expandParts (docs.expand fuel) parts) entries := by
  induction parts with
  | nil => exact ⟨[], 0, rfl⟩
  | cons part rest ih =>
      obtain ⟨others, fuel, expanded⟩ := ih fun doc listed =>
        answered doc (List.mem_cons_of_mem _ listed)
      cases part with
      | inl entry =>
          refine ⟨entry :: others, fuel, ?_⟩
          dsimp only at expanded ⊢
          rw [expandParts, expanded]
          rfl
      | inr doc =>
          obtain ⟨own, fuel', asked⟩ := answered doc List.mem_cons_self
          have growing : Growing fun fuel => expandParts (docs.expand fuel) rest :=
            fun fuel _ found => expandParts_mono (fun doc => growing_expand doc fuel) found
          have expanded := growing.mono (Nat.le_max_left fuel fuel') expanded
          have asked := (growing_expand doc).mono (Nat.le_max_right fuel fuel') asked
          refine ⟨own ++ others, max fuel fuel', ?_⟩
          dsimp only at expanded asked ⊢
          rw [expandParts, asked, Option.bind_some, expanded]
          rfl

/-- What holds of the entries of all documents holds of an expansion. -/
theorem forall_mem_expandParts {expand : α → Option (List β)} {holds : β → Prop}
    (among : ∀ doc entries, expand doc = some entries → ∀ entry ∈ entries, holds entry)
    {parts : List (β ⊕ α)} (own : ∀ entry, .inl entry ∈ parts → holds entry) {entries : List β}
    (found : expandParts expand parts = some entries) : ∀ entry ∈ entries, holds entry := by
  induction parts generalizing entries with
  | nil =>
      cases found
      exact List.forall_mem_nil _
  | cons part rest ih =>
      have ownLater : ∀ entry, .inl entry ∈ rest → holds entry :=
        fun entry listed => own entry (List.mem_cons_of_mem _ listed)
      cases part with
      | inl entry =>
          obtain ⟨others, expanded, rfl⟩ := Option.map_eq_some_iff.mp found
          exact List.forall_mem_cons.mpr ⟨own entry List.mem_cons_self, ih ownLater expanded⟩
      | inr doc =>
          obtain ⟨first, asked, found⟩ := Option.bind_eq_some_iff.mp found
          obtain ⟨others, expanded, rfl⟩ := Option.map_eq_some_iff.mp found
          exact List.forall_mem_append.mpr ⟨among doc first asked, ih ownLater expanded⟩

theorem forall_mem_expand {holds : β → Prop}
    (own : ∀ doc entry, .inl entry ∈ docs.parts doc → holds entry) {fuel : Nat} {doc : α}
    {entries : List β} (found : docs.expand fuel doc = some entries) :
    ∀ entry ∈ entries, holds entry := by
  induction fuel generalizing doc entries with
  | zero => cases found
  | succ fuel ih => exact forall_mem_expandParts (fun _ _ => ih) (own doc) found

/-- A document has an expansion where the references behind it come to an end. -/
theorem expands_iff_acc (doc : α) :
    (∃ entries, Answers (docs.expand · doc) entries) ↔ Acc (flip docs.Refers) doc := by
  constructor
  · rintro ⟨entries, fuel, found⟩
    induction fuel generalizing doc entries with
    | zero => cases found
    | succ fuel ih =>
        apply Acc.intro
        intro other listed
        obtain ⟨own, asked⟩ := expandParts_isSome found listed
        exact ih other own asked
  · intro ends
    induction ends with
    | intro doc _ ih =>
        obtain ⟨entries, fuel, found⟩ := answers_expandParts ih
        exact ⟨entries, fuel + 1, found⟩

/-- Finitely many documents refer to finitely many. -/
theorem finite_referred (finite : {doc | docs.parts doc ≠ []}.Finite) :
    {other | ∃ doc, docs.Refers doc other}.Finite := by
  have each : (⋃ doc ∈ {doc | docs.parts doc ≠ []}, {other | docs.Refers doc other}).Finite :=
    finite.biUnion fun doc _ =>
      (List.finite_toSet (docs.parts doc)).preimage Sum.inr_injective.injOn
  apply each.subset
  rintro other ⟨doc, refers⟩
  exact Set.mem_biUnion (List.ne_nil_of_mem refers) refers

/-- Where finitely many documents refer to others, a document has an expansion unless it refers to
one that refers to itself, each directly or through others. -/
theorem expands_iff_not_stuck (finite : {doc | docs.parts doc ≠ []}.Finite) (doc : α) :
    (∃ entries, Answers (docs.expand · doc) entries) ↔
      ¬ Dependencies.Stuck docs.Refers doc := by
  rw [expands_iff_acc]
  apply Dependencies.acc_iff_not_stuck (finite_referred finite).toFinset.toList
  intro node other refers
  rw [Finset.mem_toList, Set.Finite.mem_toFinset]
  exact ⟨node, refers⟩

end Documents

end Rind
