import Mathlib.Data.List.Basic

/-!
# Trials with a pause

Trials of several names come in a row.  A trial takes place unless it cannot, an earlier one
of its name has settled or the last one was too short a time ago, and the row ends with the
first trial that fails.  Every name that is due gets a trial exactly where none that takes
place ahead of its first one fails.
-/

namespace Rind.Trials

/-- Something that is tried under a name at some time. -/
structure Trial (κ : Type) where
  name : κ
  time : Nat
  ready : Bool
  settles : Bool
  fails : Bool
  deriving DecidableEq

section Row

variable {κ : Type} [DecidableEq κ] (pause : Nat)

/-- The last trial of a name is less than a pause ago. -/
def recent (last : κ → Option Nat) (name : κ) (time : Nat) : Bool :=
  (last name).any fun earlier => decide (time - earlier < pause)

/-- A trial keeps another of its name from taking place. -/
def blocks (earlier trial : Trial κ) : Bool :=
  decide (earlier.name = trial.name) &&
    (earlier.settles || decide (trial.time - earlier.time < pause))

variable (last : κ → Option Nat)

/-- The trial would take place if it came first. -/
def due (trial : Trial κ) : Bool := trial.ready && !recent pause last trial.name trial.time

def takesPlace (made : List (Trial κ)) (trial : Trial κ) : Bool :=
  due pause last trial && !made.any (blocks pause · trial)

/-- The trials that take place, if the row does not end before. -/
def attempts (made trials : List (Trial κ)) : List (Trial κ) :=
  trials.foldl
    (fun made trial => if takesPlace pause last made trial then made ++ [trial] else made) made

/-- The trials that take place, the last of which may fail. -/
def reached (made : List (Trial κ)) : List (Trial κ) → List (Trial κ)
  | [] => made
  | trial :: rest =>
      if takesPlace pause last made trial then
        if trial.fails then made ++ [trial] else reached (made ++ [trial]) rest
      else reached made rest

/-- No trial fails that takes place ahead of the first one of a name that is due. -/
def NoneFailsAhead (trials : List (Trial κ)) : Prop :=
  ∀ early trial late, trials = early ++ trial :: late → due pause last trial →
    (∀ other ∈ early, other.name = trial.name → ¬ due pause last other) →
    ∀ attempt ∈ attempts pause last [] early, ¬ attempt.fails

variable {pause last} {made early late : List (Trial κ)} {trial attempt : Trial κ}

theorem attempts_cons (rest : List (Trial κ)) :
    attempts pause last made (trial :: rest) =
      attempts pause last (if takesPlace pause last made trial then made ++ [trial] else made)
        rest := rfl

theorem due_of_takesPlace (takes : takesPlace pause last made trial) : due pause last trial :=
  ((Bool.and_eq_true _ _).mp takes).1

theorem subset_attempts (trials : List (Trial κ)) : made ⊆ attempts pause last made trials := by
  induction trials generalizing made with
  | nil => exact List.Subset.refl _
  | cons trial rest ih =>
      rw [attempts_cons]
      split
      · exact List.Subset.trans (List.subset_append_left _ _) ih
      · exact ih

/-- The trials that take place are due. -/
theorem due_of_mem_attempts {trials : List (Trial κ)}
    (inside : attempt ∈ attempts pause last made trials) :
    attempt ∈ made ∨ attempt ∈ trials ∧ due pause last attempt := by
  induction trials generalizing made with
  | nil => exact .inl inside
  | cons trial rest ih =>
      rw [attempts_cons] at inside
      rcases ih inside with known | ⟨listed, isDue⟩
      · split at known
        · next takes =>
            rcases List.mem_append.mp known with earlier | added
            · exact .inl earlier
            · rw [List.mem_singleton.mp added]
              exact .inr ⟨List.mem_cons_self, due_of_takesPlace takes⟩
        · exact .inl known
      · exact .inr ⟨List.mem_cons_of_mem _ listed, isDue⟩

theorem subset_reached (trials : List (Trial κ)) : made ⊆ reached pause last made trials := by
  induction trials generalizing made with
  | nil => exact List.Subset.refl _
  | cons trial rest ih =>
      rw [reached]
      split
      · split
        · exact List.subset_append_left _ _
        · exact List.Subset.trans (List.subset_append_left _ _) ih
      · exact ih

theorem reached_subset_attempts (trials : List (Trial κ)) :
    reached pause last made trials ⊆ attempts pause last made trials := by
  induction trials generalizing made with
  | nil => exact List.Subset.refl _
  | cons trial rest ih =>
      rw [reached, attempts_cons]
      split
      · split
        · exact subset_attempts rest
        · exact ih
      · exact ih

/-- The row goes on where no trial fails. -/
theorem reached_append_of_succeeds
    (succeeds : ∀ attempt ∈ attempts pause last made early, ¬ attempt.fails) :
    reached pause last made (early ++ late) =
      reached pause last (attempts pause last made early) late := by
  induction early generalizing made with
  | nil => rfl
  | cons trial rest ih =>
      rw [attempts_cons] at succeeds ⊢
      rw [List.cons_append, reached]
      split at succeeds
      · next takes =>
          have passes : ¬ trial.fails := succeeds trial (subset_attempts rest (by simp))
          rw [if_pos takes, if_neg passes, if_pos takes, ih succeeds]
      · next stays => rw [if_neg stays, if_neg stays, ih succeeds]

/-- The row ends where a trial fails. -/
theorem reached_append_of_fails (succeeded : ∀ attempt ∈ made, ¬ attempt.fails)
    (inside : attempt ∈ attempts pause last made early) (fails : attempt.fails) :
    reached pause last made (early ++ late) = reached pause last made early := by
  induction early generalizing made with
  | nil => exact absurd fails (succeeded attempt inside)
  | cons trial rest ih =>
      rw [attempts_cons] at inside
      rw [List.cons_append, reached, reached]
      split
      · next takes =>
          rw [if_pos takes] at inside
          split
          · rfl
          · next passes =>
              apply ih _ inside
              exact List.forall_mem_append.mpr ⟨succeeded, by simpa using passes⟩
      · next stays =>
          rw [if_neg stays] at inside
          exact ih succeeded inside

/-- Every name that is due has a trial exactly where none fails ahead of its first one. -/
theorem forall_reached_iff (trials : List (Trial κ)) :
    (∀ trial ∈ trials, due pause last trial →
      ∃ attempt ∈ reached pause last [] trials, attempt.name = trial.name) ↔
        NoneFailsAhead pause last trials := by
  constructor
  · rintro every early trial late rfl isDue first attempt inside fails
    obtain ⟨other, reachedOther, sameName⟩ := every trial (by simp) isDue
    rw [reached_append_of_fails (by simp) inside fails] at reachedOther
    rcases due_of_mem_attempts (reached_subset_attempts early reachedOther) with none_ | known
    · exact absurd none_ List.not_mem_nil
    · exact first other known.1 sameName known.2
  · intro ahead trial listed isDue
    let matching (other : Trial κ) : Bool :=
      decide (other.name = trial.name) && due pause last other
    have found : (trials.find? matching).isSome :=
      List.find?_isSome.mpr ⟨trial, listed, by simpa [matching] using isDue⟩
    obtain ⟨leading, found⟩ := Option.isSome_iff_exists.mp found
    obtain ⟨matches_, early, late, rfl, before⟩ := List.find?_eq_some_iff_append.mp found
    obtain ⟨sameName, leadingDue⟩ : leading.name = trial.name ∧ due pause last leading := by
      simpa [matching] using matches_
    have first : ∀ other ∈ early, other.name = leading.name → ¬ due pause last other := by
      intro other inside same
      have differs := before other inside
      simpa [matching, same, sameName] using differs
    have succeeds := ahead early leading late rfl leadingDue first
    have takes : takesPlace pause last (attempts pause last [] early) leading := by
      rw [takesPlace, leadingDue, Bool.true_and, Bool.not_eq_true', List.any_eq_false]
      intro other inside blocked
      rcases due_of_mem_attempts inside with none_ | ⟨listed, otherDue⟩
      · exact absurd none_ List.not_mem_nil
      · have same := of_decide_eq_true ((Bool.and_eq_true _ _).mp blocked).1
        exact first other listed same otherDue
    refine ⟨leading, ?_, sameName⟩
    rw [reached_append_of_succeeds succeeds, reached, if_pos takes]
    split
    · simp
    · exact subset_reached late (by simp)

/-! ## Notes of the last trials -/

variable (pause last) in
/-- What is noted of the last trial of each name, after some trials were made. -/
structure Noted (made : List (Trial κ)) (notes : κ → Option Nat) : Prop where
  origin : ∀ name, notes name = last name ∨
    ∃ attempt ∈ made, attempt.name = name ∧ notes name = some attempt.time
  earlier : ∀ name time, last name = some time → ∃ later, notes name = some later ∧ time ≤ later
  covers : ∀ attempt ∈ made, ∃ later, notes attempt.name = some later ∧ attempt.time ≤ later
  differs : ∀ attempt ∈ made, notes attempt.name ≠ last attempt.name

variable {notes : κ → Option Nat}

omit [DecidableEq κ] in
theorem Noted.nil : Noted last [] last where
  origin _ := .inl rfl
  earlier _ time noted := ⟨time, noted, Nat.le_refl _⟩
  covers := by simp
  differs := by simp

/-- A trial takes place, and is noted. -/
theorem Noted.snoc (noted : Noted last made notes) (positive : 0 < pause)
    (takes : takesPlace pause last made trial) :
    Noted last (made ++ [trial])
      fun name => if name = trial.name then some trial.time else notes name := by
  obtain ⟨isDue, unblocked⟩ := (Bool.and_eq_true _ _).mp takes
  have after : ∀ time, last trial.name = some time → time + pause ≤ trial.time := by
    intro time held
    have late := ((Bool.and_eq_true _ _).mp isDue).2
    simp only [recent, held, Option.any_some, Bool.not_eq_true', decide_eq_false_iff_not] at late
    omega
  have apart : ∀ attempt ∈ made, attempt.name = trial.name → attempt.time ≤ trial.time := by
    intro attempt inside same
    rw [Bool.not_eq_true', List.any_eq_false] at unblocked
    have free := unblocked attempt inside
    simp only [blocks, same, decide_true, Bool.true_and, Bool.or_eq_true, decide_eq_true_eq,
      not_or] at free
    omega
  constructor
  · intro name
    by_cases same : name = trial.name
    · exact .inr ⟨trial, by simp, same.symm, if_pos same⟩
    · rw [if_neg same]
      rcases noted.origin name with kept | ⟨attempt, inside, named, held⟩
      · exact .inl kept
      · exact .inr ⟨attempt, List.mem_append_left _ inside, named, held⟩
  · intro name time held
    by_cases same : name = trial.name
    · subst same
      exact ⟨trial.time, if_pos rfl, by have := after time held; omega⟩
    · rw [if_neg same]
      exact noted.earlier name time held
  · intro attempt inside
    by_cases same : attempt.name = trial.name
    · refine ⟨trial.time, if_pos same, ?_⟩
      rcases List.mem_append.mp inside with earlier | added
      · exact apart attempt earlier same
      · exact Nat.le_of_eq (congrArg Trial.time (List.mem_singleton.mp added))
    · rw [if_neg same]
      rcases List.mem_append.mp inside with earlier | added
      · exact noted.covers attempt earlier
      · exact absurd (congrArg Trial.name (List.mem_singleton.mp added)) same
  · intro attempt inside
    by_cases same : attempt.name = trial.name
    · rw [if_pos same, same]
      intro held
      have := after trial.time held.symm
      omega
    · rw [if_neg same]
      rcases List.mem_append.mp inside with earlier | added
      · exact noted.differs attempt earlier
      · exact absurd (congrArg Trial.name (List.mem_singleton.mp added)) same

omit [DecidableEq κ] in
/-- The names whose notes have changed are those of the trials. -/
theorem Noted.changed_iff (noted : Noted last made notes) (name : κ) :
    notes name ≠ last name ↔ ∃ attempt ∈ made, attempt.name = name := by
  constructor
  · intro changed
    obtain ⟨attempt, inside, named, -⟩ := (noted.origin name).resolve_left changed
    exact ⟨attempt, inside, named⟩
  · rintro ⟨attempt, inside, rfl⟩
    exact noted.differs attempt inside

omit [DecidableEq κ] in
theorem Noted.recent_iff (noted : Noted last made notes) (name : κ) (time : Nat) :
    recent pause notes name time ↔ recent pause last name time ∨
      ∃ attempt ∈ made, attempt.name = name ∧ time - attempt.time < pause := by
  simp only [recent, Option.any_eq_true, decide_eq_true_eq]
  constructor
  · rintro ⟨earlier, held, late⟩
    rcases noted.origin name with kept | ⟨attempt, inside, named, same⟩
    · exact .inl ⟨earlier, kept ▸ held, late⟩
    · rw [held] at same
      cases same
      exact .inr ⟨attempt, inside, named, late⟩
  · rintro (⟨earlier, held, late⟩ | ⟨attempt, inside, rfl, late⟩)
    · obtain ⟨later, noted', le⟩ := noted.earlier name earlier held
      exact ⟨later, noted', by omega⟩
    · obtain ⟨later, noted', le⟩ := noted.covers attempt inside
      exact ⟨later, noted', by omega⟩

/-- A trial takes place where the notes and the settled names let it. -/
theorem Noted.takesPlace_iff (noted : Noted last made notes) :
    takesPlace pause last made trial ↔ trial.ready ∧
      ¬ recent pause notes trial.name trial.time ∧
      ¬ ∃ attempt ∈ made, attempt.name = trial.name ∧ attempt.settles := by
  have free (attempt : Trial κ) : ¬ blocks pause attempt trial ↔
      ¬ (attempt.name = trial.name ∧ trial.time - attempt.time < pause) ∧
        ¬ (attempt.name = trial.name ∧ attempt.settles) := by
    rw [blocks, Bool.and_eq_true, Bool.or_eq_true, decide_eq_true_eq, decide_eq_true_eq]
    tauto
  rw [noted.recent_iff, takesPlace, due, Bool.and_eq_true, Bool.and_eq_true, Bool.not_eq_true',
    Bool.not_eq_true', List.any_eq_false, Bool.eq_false_iff, not_or]
  simp only [free, not_exists, not_and, forall_and, and_assoc, ne_eq]

end Row

end Rind.Trials
