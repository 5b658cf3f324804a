import Rind.Prog.Core

/-!
# Checks before changes

A program that can refuse its input does so best before it has changed anything.
`Reads body` says that a program changes nothing, `Avoids refusal body` that it never
ends with a refusal, and `Guarded refusal body` that it has changed nothing where it
does.  A program is guarded if it first only reads and then no longer refuses.

`Settles bad body` says that a program comes to an end, and not with an error that is bad.
-/

namespace Rind.Prog

variable {σ ε α β : Type}

/-! ## Steps that may fail -/

/-- The value, or an error where there is none. -/
def orFail (err : ε) : Option α → Prog σ ε α
  | some value => pure value
  | none => fail err

def ofExcept : Except ε α → Prog σ ε α
  | .ok value => pure value
  | .error err => fail err

/-- A part of the state, or an error where it is missing. -/
def demand (err : ε) (view : σ → Option α) : Prog σ ε α := fun state =>
  orFail err (view state) state

/-- The answer to a question, which is not known before it has been found. -/
def await (answer : Option α) : Prog σ ε α := fun state => answer.map fun value => (.ok value, state)

/-- The results of a program on every entry of a list, in order. -/
def collect (body : α → Prog σ ε β) : List α → Prog σ ε (List β)
  | [] => pure []
  | entry :: rest => do
      let first ← body entry
      let others ← collect body rest
      pure (first :: others)

@[simp] theorem run_await_some (value : α) (state : σ) :
    (await (some value) : Prog σ ε α) state = some (.ok value, state) := rfl

@[simp] theorem run_await_none (state : σ) : (await none : Prog σ ε α) state = none := rfl

@[simp] theorem run_await_some_bind (value : α) (next : α → Prog σ ε β) (state : σ) :
    (await (some value) >>= next) state = next value state := rfl

@[simp] theorem run_await_none_bind (next : α → Prog σ ε β) (state : σ) :
    (await none >>= next) state = none := rfl

@[simp] theorem run_demand_bind (err : ε) (view : σ → Option α) (next : α → Prog σ ε β)
    (state : σ) : (demand err view >>= next) state = (orFail err (view state) >>= next) state := rfl

@[simp] theorem run_orFail_some_bind (err : ε) (value : α) (next : α → Prog σ ε β) (state : σ) :
    (orFail err (some value) >>= next) state = next value state := rfl

@[simp] theorem run_orFail_none_bind (err : ε) (next : α → Prog σ ε β) (state : σ) :
    (orFail err none >>= next) state = some (.error err, state) := rfl

@[simp] theorem run_ofExcept_ok_bind (value : α) (next : α → Prog σ ε β) (state : σ) :
    (ofExcept (.ok value) >>= next) state = next value state := rfl

@[simp] theorem run_ofExcept_error_bind (err : ε) (next : α → Prog σ ε β) (state : σ) :
    (ofExcept (.error err) >>= next) state = some (.error err, state) := rfl

@[simp] theorem run_fail_bind (err : ε) (next : α → Prog σ ε β) (state : σ) :
    (fail err >>= next) state = some (.error err, state) := rfl

/-! ## Programs that change nothing -/

/-- Every end of the program is in the state it was started in. -/
def Reads (body : Prog σ ε α) : Prop :=
  ∀ state result final, body state = some (result, final) → final = state

namespace Reads

theorem pure (value : α) : Reads (pure value : Prog σ ε α) := by
  intro state result final ran
  cases ran
  rfl

theorem fail (err : ε) : Reads (fail err : Prog σ ε α) := by
  intro state result final ran
  cases ran
  rfl

theorem read (view : σ → α) : Reads (read view : Prog σ ε α) := by
  intro state result final ran
  cases ran
  rfl

theorem orFail (err : ε) (found : Option α) : Reads (orFail err found : Prog σ ε α) := by
  cases found with
  | none => exact fail err
  | some value => exact pure value

theorem ofExcept (outcome : Except ε α) : Reads (ofExcept outcome : Prog σ ε α) := by
  cases outcome with
  | error err => exact fail err
  | ok value => exact pure value

theorem demand (err : ε) (view : σ → Option α) : Reads (demand err view : Prog σ ε α) :=
  fun state result final ran => orFail err (view state) state result final ran

theorem await (answer : Option α) : Reads (await answer : Prog σ ε α) := by
  intro state result final ran
  cases answer with
  | none => cases ran
  | some value =>
      cases ran
      rfl

theorem bind {first : Prog σ ε α} {next : α → Prog σ ε β} (firstReads : Reads first)
    (nextReads : ∀ value, Reads (next value)) : Reads (first >>= next) := by
  intro state result final ran
  rcases run_bind_cases ran with ⟨err, firstRan, -⟩ | ⟨value, middle, firstRan, nextRan⟩
  · exact firstReads _ _ _ firstRan
  · have same := firstReads _ _ _ firstRan
    subst same
    exact nextReads value _ _ _ nextRan

theorem collect {body : α → Prog σ ε β} (bodyReads : ∀ entry, Reads (body entry))
    (entries : List α) : Reads (collect body entries) := by
  induction entries with
  | nil => exact pure []
  | cons entry rest ih => exact bind (bodyReads entry) fun first => bind ih fun others => pure _

end Reads

/-! ## Programs that do not refuse -/

/-- What refuses a whole program, of the first part of it: the part only ends the program
with an error. -/
def OnErrors (refusal : Except ε β → Prop) : Except ε α → Prop
  | .error err => refusal (.error err)
  | .ok _ => False

/-- The program never ends with a refusal. -/
def Avoids (refusal : Except ε α → Prop) (body : Prog σ ε α) : Prop :=
  ∀ state result final, body state = some (result, final) → ¬ refusal result

namespace Avoids

theorem pure {refusal : Except ε α → Prop} {value : α} (accepted : ¬ refusal (.ok value)) :
    Avoids refusal (pure value : Prog σ ε α) := by
  intro state result final ran
  cases ran
  exact accepted

theorem fail {refusal : Except ε α → Prop} {err : ε} (other : ¬ refusal (.error err)) :
    Avoids refusal (fail err : Prog σ ε α) := by
  intro state result final ran
  cases ran
  exact other

section Parts

variable {refusal : Except ε β → Prop}

theorem change (update : σ → σ) : Avoids (OnErrors refusal) (change update : Prog σ ε Unit) := by
  intro state result final ran
  cases ran
  exact id

theorem read (view : σ → α) : Avoids (OnErrors refusal) (read view : Prog σ ε α) := by
  intro state result final ran
  cases ran
  exact id

theorem orFail {err : ε} (other : ¬ refusal (.error err)) (found : Option α) :
    Avoids (OnErrors refusal) (orFail err found : Prog σ ε α) := by
  cases found with
  | none => exact fail other
  | some value => exact pure id

theorem demand {err : ε} (other : ¬ refusal (.error err)) (view : σ → Option α) :
    Avoids (OnErrors refusal) (demand err view : Prog σ ε α) :=
  fun state result final ran => orFail other (view state) state result final ran

theorem ofExcept {outcome : Except ε α}
    (others : ∀ err, outcome = .error err → ¬ refusal (.error err)) :
    Avoids (OnErrors refusal) (ofExcept outcome : Prog σ ε α) := by
  cases outcome with
  | error err => exact fail (others err rfl)
  | ok value => exact pure id

theorem bind {first : Prog σ ε α} {next : α → Prog σ ε β}
    (firstAvoids : Avoids (OnErrors refusal) first)
    (nextAvoids : ∀ value, Avoids refusal (next value)) : Avoids refusal (first >>= next) := by
  intro state result final ran
  rcases run_bind_cases ran with ⟨err, firstRan, rfl⟩ | ⟨value, middle, -, nextRan⟩
  · exact firstAvoids _ _ _ firstRan
  · exact nextAvoids value _ _ _ nextRan

/-- A part that consists of parts. -/
theorem bind_part {γ : Type} {first : Prog σ ε γ} {next : γ → Prog σ ε α}
    (firstAvoids : Avoids (OnErrors refusal) first)
    (nextAvoids : ∀ value, Avoids (OnErrors refusal) (next value)) :
    Avoids (OnErrors refusal) (first >>= next) := by
  intro state result final ran
  rcases run_bind_cases ran with ⟨err, firstRan, rfl⟩ | ⟨value, middle, -, nextRan⟩
  · exact firstAvoids _ _ _ firstRan
  · exact nextAvoids value _ _ _ nextRan

end Parts

end Avoids

/-! ## Programs that check first -/

/-- The program has changed nothing where it ends with a refusal. -/
def Guarded (refusal : Except ε α → Prop) (body : Prog σ ε α) : Prop :=
  ∀ state result final, body state = some (result, final) → refusal result → final = state

namespace Guarded

theorem of_reads {refusal : Except ε α → Prop} {body : Prog σ ε α} (reads : Reads body) :
    Guarded refusal body :=
  fun state result final ran _ => reads state result final ran

theorem of_avoids {refusal : Except ε α → Prop} {body : Prog σ ε α}
    (avoids : Avoids refusal body) : Guarded refusal body :=
  fun state result final ran refused => absurd refused (avoids state result final ran)

/-- What is read first does not matter. -/
theorem bind {refusal : Except ε β → Prop} {first : Prog σ ε α} {next : α → Prog σ ε β}
    (firstReads : Reads first) (nextGuarded : ∀ value, Guarded refusal (next value)) :
    Guarded refusal (first >>= next) := by
  intro state result final ran refused
  rcases run_bind_cases ran with ⟨err, firstRan, -⟩ | ⟨value, middle, firstRan, nextRan⟩
  · exact firstReads _ _ _ firstRan
  · have same := firstReads _ _ _ firstRan
    subst same
    exact nextGuarded value _ _ _ nextRan refused

end Guarded

/-! ## Programs that come to a good end -/

/-- The program comes to an end, and not with a bad error. -/
def Settles (bad : ε → Prop) (body : Prog σ ε α) (state : σ) : Prop :=
  ∃ result final, body state = some (result, final) ∧ ∀ err, result = .error err → ¬ bad err

namespace Settles

variable {bad : ε → Prop} {state : σ}

theorem of_ok {body : Prog σ ε α} {value : α} {final : σ}
    (ran : body state = some (.ok value, final)) : Settles bad body state :=
  ⟨_, _, ran, nofun⟩

theorem of_error {body : Prog σ ε α} {err : ε} {final : σ}
    (ran : body state = some (.error err, final)) (good : ¬ bad err) : Settles bad body state := by
  refine ⟨_, _, ran, ?_⟩
  intro other same
  cases same
  exact good

theorem pure (value : α) : Settles bad (pure value : Prog σ ε α) state := of_ok rfl

theorem fail_iff {err : ε} : Settles bad (fail err : Prog σ ε α) state ↔ ¬ bad err := by
  constructor
  · rintro ⟨result, final, ran, good⟩
    cases ran
    exact good err rfl
  · intro good
    exact of_error rfl good

theorem change (update : σ → σ) : Settles bad (change update : Prog σ ε Unit) state :=
  of_ok rfl

theorem read (view : σ → α) : Settles bad (read view : Prog σ ε α) state :=
  of_ok rfl

theorem orFail {err : ε} (good : ¬ bad err) (found : Option α) :
    Settles bad (orFail err found : Prog σ ε α) state := by
  cases found with
  | none => exact fail_iff.mpr good
  | some value => exact pure value

theorem demand {err : ε} (good : ¬ bad err) (view : σ → Option α) :
    Settles bad (demand err view : Prog σ ε α) state := orFail good (view state)

theorem ofExcept {outcome : Except ε α} (good : ∀ err, outcome = .error err → ¬ bad err) :
    Settles bad (ofExcept outcome : Prog σ ε α) state := by
  cases outcome with
  | error err => exact fail_iff.mpr (good err rfl)
  | ok value => exact pure value

theorem bind {first : Prog σ ε α} {next : α → Prog σ ε β} (firstEnds : Settles bad first state)
    (nextEnds : ∀ value middle, Settles bad (next value) middle) :
    Settles bad (first >>= next) state := by
  obtain ⟨result, middle, firstRan, good⟩ := firstEnds
  cases result with
  | error err => exact of_error (run_bind_of_error firstRan) (good err rfl)
  | ok value =>
      obtain ⟨result, final, nextRan, good⟩ := nextEnds value middle
      exact ⟨result, final, (run_bind_of_ok firstRan).trans nextRan, good⟩

theorem collect {body : α → Prog σ ε β} (bodyEnds : ∀ entry state, Settles bad (body entry) state)
    (entries : List α) (state : σ) : Settles bad (collect body entries) state := by
  induction entries generalizing state with
  | nil => exact pure []
  | cons entry rest ih =>
      apply bind (bodyEnds entry state)
      intro first middle
      exact bind (ih middle) fun others final => pure _

end Settles

end Rind.Prog
