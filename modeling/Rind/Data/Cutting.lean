import Mathlib.Data.List.Basic

/-!
# Cutting a list

A list is cut at the first entry for which a predicate on it and on what stands before it holds.
Two predicates cut a list alike exactly if they agree up to the first entry where one of them
cuts.
-/

namespace Rind

variable {α : Type} {cuts cuts' : List α → α → Bool} {before entries more : List α} {entry : α}

/-- What stands before the first entry where the list is cut. -/
def cutAt (cuts : List α → α → Bool) (before : List α) : (entries : List α) → List α
  | [] => []
  | entry :: rest =>
      if cuts before entry then [] else entry :: cutAt cuts (before ++ [entry]) rest

/-- No entry cuts the list. -/
def Whole (cuts : List α → α → Bool) (before entries : List α) : Prop :=
  cutAt cuts before entries = entries

theorem whole_cons :
    Whole cuts before (entry :: entries) ↔
      cuts before entry = false ∧ Whole cuts (before ++ [entry]) entries := by
  rw [Whole, cutAt]
  cases cuts before entry with
  | true => simp
  | false => simp [Whole]

/-- A list is whole, or it goes on with an entry that cuts it. -/
theorem cutAt_cases (cuts : List α → α → Bool) (before entries : List α) :
    Whole cuts before entries ∨ ∃ entry after,
      entries = cutAt cuts before entries ++ entry :: after ∧
        cuts (before ++ cutAt cuts before entries) entry := by
  induction entries generalizing before with
  | nil => exact .inl rfl
  | cons first rest ih =>
      rw [whole_cons, cutAt]
      cases cut : cuts before first with
      | true => exact .inr ⟨first, rest, rfl, by simpa using cut⟩
      | false =>
          rcases ih (before ++ [first]) with whole | ⟨entry, after, shape, cut'⟩
          · exact .inl ⟨rfl, whole⟩
          · refine .inr ⟨entry, after, ?_, ?_⟩
            · simpa using shape
            · simpa using cut'

/-- What is cut off is cut off behind a whole part as well. -/
theorem Whole.cutAt_append (whole : Whole cuts before entries) (more : List α) :
    cutAt cuts before (entries ++ more) = entries ++ cutAt cuts (before ++ entries) more := by
  induction entries generalizing before with
  | nil => simp
  | cons first rest ih =>
      obtain ⟨uncut, rest'⟩ := whole_cons.mp whole
      rw [List.cons_append, cutAt, uncut, ih rest', List.append_assoc]
      rfl

theorem Whole.of_append (whole : Whole cuts before (entries ++ more)) :
    Whole cuts before entries := by
  induction entries generalizing before with
  | nil => rfl
  | cons first rest ih =>
      obtain ⟨uncut, rest'⟩ := whole_cons.mp whole
      exact whole_cons.mpr ⟨uncut, ih rest'⟩

/-- A list with an entry that cuts is not whole. -/
theorem not_whole_of_cuts (cut : cuts (before ++ entries) entry) :
    ¬ Whole cuts before (entries ++ entry :: more) := by
  intro whole
  have shorter := whole.of_append.cutAt_append (entry :: more)
  rw [cutAt, if_pos cut, List.append_nil] at shorter
  have lengths := congrArg List.length (shorter.symm.trans whole)
  rw [List.length_append, List.length_cons] at lengths
  omega

theorem not_whole_of_begins {part : List α} (cut : cuts (before ++ part) entry)
    (begins : part ++ [entry] <+: entries) : ¬ Whole cuts before entries := by
  obtain ⟨rest, rfl⟩ := begins
  rw [List.append_assoc, List.singleton_append]
  exact not_whole_of_cuts cut

/-- What is left of a list is whole. -/
theorem whole_cutAt (cuts : List α → α → Bool) (before entries : List α) :
    Whole cuts before (cutAt cuts before entries) := by
  induction entries generalizing before with
  | nil => rfl
  | cons first rest ih =>
      rw [cutAt]
      cases cut : cuts before first with
      | true => rfl
      | false => exact whole_cons.mpr ⟨cut, ih (before ++ [first])⟩

theorem cutAt_begins (cuts : List α → α → Bool) (before entries : List α) :
    cutAt cuts before entries <+: entries := by
  rcases cutAt_cases cuts before entries with whole | ⟨entry, after, shape, -⟩
  · exact ⟨[], by rw [List.append_nil, whole]⟩
  · exact ⟨entry :: after, shape.symm⟩

/-! ## Two predicates -/

/-- Two predicates agree on each entry before which neither of them cuts. -/
def CutAlike (cuts cuts' : List α → α → Bool) (before entries : List α) : Prop :=
  ∀ left entry right, entries = left ++ entry :: right →
    (∀ earlier other later, left = earlier ++ other :: later →
      cuts (before ++ earlier) other = false ∧ cuts' (before ++ earlier) other = false) →
    cuts (before ++ left) entry = cuts' (before ++ left) entry

theorem cutAlike_cons :
    CutAlike cuts cuts' before (entry :: entries) ↔
      cuts before entry = cuts' before entry ∧
        (cuts before entry = false → CutAlike cuts cuts' (before ++ [entry]) entries) := by
  constructor
  · intro alike
    have first : cuts before entry = cuts' before entry := by
      have agree := alike [] entry entries rfl (by simp)
      rwa [List.append_nil] at agree
    refine ⟨first, fun uncut left other right shape earlier => ?_⟩
    have agree := alike (entry :: left) other right (by rw [shape]; rfl) ?_
    · simpa using agree
    · intro start between later split
      cases start with
      | nil =>
          obtain ⟨rfl, -⟩ := List.cons.inj split
          rw [List.append_nil]
          exact ⟨uncut, first ▸ uncut⟩
      | cons same start =>
          obtain ⟨rfl, tail⟩ := List.cons.inj split
          simpa using earlier start between later tail
  · rintro ⟨first, rest⟩ left other right shape earlier
    cases left with
    | nil =>
        obtain ⟨rfl, -⟩ := List.cons.inj shape
        simpa using first
    | cons same left =>
        obtain ⟨rfl, tail⟩ := List.cons.inj shape
        have uncut := (earlier [] entry left rfl).1
        rw [List.append_nil] at uncut
        have agree := rest uncut left other right tail ?_
        · simpa using agree
        · intro start between later split
          have both := earlier (entry :: start) between later (by rw [split]; rfl)
          simpa using both

/-- Two predicates leave the same of a list exactly if they cut it alike. -/
theorem cutAt_eq_iff :
    cutAt cuts before entries = cutAt cuts' before entries ↔
      CutAlike cuts cuts' before entries := by
  induction entries generalizing before with
  | nil => simp [cutAt, CutAlike]
  | cons entry rest ih =>
      rw [cutAlike_cons, cutAt, cutAt, ← ih]
      cases cuts before entry with
      | true => cases cuts' before entry <;> simp
      | false => cases cuts' before entry <;> simp

/-- Where two predicates leave different parts of a list, what one of them leaves goes on in what
the other one leaves, with an entry where the first one cuts. -/
theorem cutAt_apart (apart : cutAt cuts before entries ≠ cutAt cuts' before entries) :
    (∃ entry, cuts (before ++ cutAt cuts before entries) entry ∧
        cutAt cuts before entries ++ [entry] <+: cutAt cuts' before entries) ∨
      ∃ entry, cuts' (before ++ cutAt cuts' before entries) entry ∧
        cutAt cuts' before entries ++ [entry] <+: cutAt cuts before entries := by
  have goesOn {cuts cuts' : List α → α → Bool}
      (shorter : cutAt cuts before entries <+: cutAt cuts' before entries)
      (apart : cutAt cuts before entries ≠ cutAt cuts' before entries) :
      ∃ entry, cuts (before ++ cutAt cuts before entries) entry ∧
        cutAt cuts before entries ++ [entry] <+: cutAt cuts' before entries := by
    obtain ⟨rest, longer⟩ := shorter
    obtain ⟨after, shape⟩ := cutAt_begins cuts' before entries
    cases rest with
    | nil =>
        rw [List.append_nil] at longer
        exact absurd longer apart
    | cons entry rest =>
        have whole : entries = cutAt cuts before entries ++ entry :: (rest ++ after) := by
          rw [← List.cons_append, ← List.append_assoc, longer, shape]
        rcases cutAt_cases cuts before entries with uncut | ⟨entry', after', shape', cut⟩
        · rw [uncut] at whole
          simp at whole
        · obtain ⟨rfl, -⟩ := List.cons.inj (List.append_cancel_left (shape'.symm.trans whole))
          exact ⟨entry', cut, rest, by simpa using longer⟩
  rcases List.prefix_or_prefix_of_prefix (cutAt_begins cuts before entries)
    (cutAt_begins cuts' before entries) with shorter | longer
  · exact .inl (goesOn shorter apart)
  · exact .inr (goesOn longer apart.symm)

end Rind
