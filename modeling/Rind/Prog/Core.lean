import Mathlib.Logic.Basic

/-!
# Stateful programs with errors and recursion

A `Prog` reads and writes a state, may fail with an error, and may still be
running when its recursion budget is spent.  An error keeps every change made
before it: this is the meaning of a routine that holds its state by mutable
reference and leaves it with an early return.

Recursion is open.  A routine receives the recursive call as a parameter, and
`Prog.iterate` ties the knot up to a given depth.  `Prog.fixpoint` is the
result all sufficiently large depths agree on.
-/

namespace Rind

/-- A program over the state `σ`: `none` while it is still running, otherwise a
value or an error together with the state it leaves. -/
def Prog (σ ε α : Type) : Type := σ → Option (Except ε α × σ)

namespace Prog

variable {σ ε α β γ : Type}

/-- The program that returns a value and leaves the state alone. -/
protected def pure (value : α) : Prog σ ε α := fun state => some (.ok value, state)

/-- Sequencing: an error of the first program is the error of both, and keeps
the state it was raised in. -/
protected def bind (first : Prog σ ε α) (next : α → Prog σ ε β) : Prog σ ε β :=
  fun state =>
    match first state with
    | none => none
    | some (.error err, state') => some (.error err, state')
    | some (.ok value, state') => next value state'

instance : Monad (Prog σ ε) where
  pure := Prog.pure
  bind := Prog.bind

/-- Fail, keeping the state. -/
def fail (err : ε) : Prog σ ε α := fun state => some (.error err, state)

/-- Read a value off the current state. -/
def read (view : σ → α) : Prog σ ε α := fun state => some (.ok (view state), state)

/-- Change the state. -/
def change (update : σ → σ) : Prog σ ε Unit := fun state => some (.ok (), update state)

/-- Run a program and drop its error, but not the changes made before it. -/
def attempt (body : Prog σ ε α) : Prog σ ε Unit := fun state =>
  (body state).map fun result => (.ok (), result.2)

/-- Run `body` on every entry of a list, in order, up to the first error. -/
def each (entries : List α) (body : α → Prog σ ε Unit) : Prog σ ε Unit :=
  match entries with
  | [] => pure ()
  | entry :: rest => do
      body entry
      each rest body

/-! ## Running a program -/

@[simp] theorem run_pure (value : α) (state : σ) :
    (pure value : Prog σ ε α) state = some (.ok value, state) := rfl

theorem run_bind (first : Prog σ ε α) (next : α → Prog σ ε β) (state : σ) :
    (first >>= next) state =
      match first state with
      | none => none
      | some (.error err, state') => some (.error err, state')
      | some (.ok value, state') => next value state' := rfl

@[simp] theorem run_fail (err : ε) (state : σ) :
    (fail err : Prog σ ε α) state = some (.error err, state) := rfl

@[simp] theorem run_read (view : σ → α) (state : σ) :
    (read view : Prog σ ε α) state = some (.ok (view state), state) := rfl

@[simp] theorem run_change (update : σ → σ) (state : σ) :
    (change update : Prog σ ε Unit) state = some (.ok (), update state) := rfl

@[simp] theorem run_change_bind (update : σ → σ) (next : Unit → Prog σ ε β) (state : σ) :
    (change update >>= next) state = next () (update state) := rfl

@[simp] theorem run_read_bind (view : σ → α) (next : α → Prog σ ε β) (state : σ) :
    (read view >>= next) state = next (view state) state := rfl

@[simp] theorem run_pure_bind (value : α) (next : α → Prog σ ε β) (state : σ) :
    ((pure value : Prog σ ε α) >>= next) state = next value state := rfl

theorem run_bind_of_ok {first : Prog σ ε α} {next : α → Prog σ ε β} {state state' : σ}
    {value : α} (ran : first state = some (.ok value, state')) :
    (first >>= next) state = next value state' := by
  rw [run_bind, ran]

theorem run_bind_of_error {first : Prog σ ε α} {next : α → Prog σ ε β} {state state' : σ}
    {err : ε} (ran : first state = some (.error err, state')) :
    (first >>= next) state = some (.error err, state') := by
  rw [run_bind, ran]

/-- A sequence that finishes either stops at the error of its first part, or
runs its second part from the state the first one left. -/
theorem run_bind_cases {first : Prog σ ε α} {next : α → Prog σ ε β} {state final : σ}
    {result : Except ε β} (ran : (first >>= next) state = some (result, final)) :
    (∃ err, first state = some (.error err, final) ∧ result = .error err) ∨
      ∃ value state', first state = some (.ok value, state') ∧
        next value state' = some (result, final) := by
  rw [run_bind] at ran
  split at ran
  · contradiction
  · rename_i err state' firstRan
    cases ran
    exact .inl ⟨err, firstRan, rfl⟩
  · rename_i value state' firstRan
    exact .inr ⟨value, state', firstRan, ran⟩

theorem run_attempt_cases {body : Prog σ ε α} {state final : σ} {result : Except ε Unit}
    (ran : attempt body state = some (result, final)) :
    result = .ok () ∧ ∃ inner, body state = some (inner, final) := by
  rw [attempt, Option.map_eq_some_iff] at ran
  obtain ⟨⟨inner, final'⟩, bodyRan, equal⟩ := ran
  cases equal
  exact ⟨rfl, inner, bodyRan⟩

@[simp] theorem run_attempt_of_some {body : Prog σ ε α} {state final : σ}
    {inner : Except ε α} (ran : body state = some (inner, final)) :
    attempt body state = some (.ok (), final) := by
  rw [attempt, ran, Option.map_some]

@[simp] theorem each_nil (body : α → Prog σ ε Unit) : each [] body = pure () := rfl

theorem each_cons (entry : α) (rest : List α) (body : α → Prog σ ε Unit) :
    each (entry :: rest) body = (do body entry; each rest body) := rfl

theorem bind_pure_unit (body : Prog σ ε Unit) : (body >>= fun _ => pure ()) = body := by
  funext state
  rw [run_bind]
  split
  · rename_i running
    exact running.symm
  · rename_i err state' failed
    exact failed.symm
  · rename_i value state' done
    exact done.symm

/-- The rest of a list is run from where its beginning ends. -/
theorem each_append_of_ok {first second : List α} {body : α → Prog σ ε Unit} {state middle : σ}
    (ran : each first body state = some (.ok (), middle)) :
    each (first ++ second) body state = each second body middle := by
  induction first generalizing state with
  | nil =>
      cases ran
      rfl
  | cons entry rest ih =>
      rw [each_cons] at ran
      rcases run_bind_cases ran with ⟨err, -, failed⟩ | ⟨value, next, first, others⟩
      · cases failed
      · rw [List.cons_append, each_cons, run_bind_of_ok first]
        exact ih others

theorem each_singleton (entry : α) (body : α → Prog σ ε Unit) : each [entry] body = body entry :=
  bind_pure_unit (body entry)

/-- A loop of rounds that do nothing does nothing. -/
theorem each_pure (entries : List α) {body : α → Prog σ ε Unit}
    (still : ∀ entry, body entry = pure ()) : each entries body = pure () := by
  induction entries with
  | nil => rfl
  | cons entry rest ih =>
      funext state
      rw [each_cons, still, ih]
      rfl

/-- A loop of changes is a change. -/
theorem run_each_change (entries : List α) (update : α → σ → σ) (state : σ) :
    (each entries fun entry => (change (update entry) : Prog σ ε Unit)) state =
      some (.ok (), entries.foldl (fun state entry => update entry state) state) := by
  induction entries generalizing state with
  | nil => rfl
  | cons entry rest ih => exact ih (update entry state)

/-- A loop fails with the error of one of its rounds. -/
theorem run_each_error {entries : List α} {body : α → Prog σ ε Unit} {state final : σ} {err : ε}
    (ran : each entries body state = some (.error err, final)) :
    ∃ entry ∈ entries, ∃ state', body entry state' = some (.error err, final) := by
  induction entries generalizing state with
  | nil => cases ran
  | cons entry rest ih =>
      rw [each_cons] at ran
      rcases run_bind_cases ran with ⟨err', entryRan, same⟩ | ⟨_, state', -, restRan⟩
      · cases same
        exact ⟨entry, by simp, state, entryRan⟩
      · obtain ⟨other, member, found⟩ := ih restRan
        exact ⟨other, List.mem_cons_of_mem _ member, found⟩

/-! ## Definedness order -/

/-- `less` has finished only where `more` has finished with the same result. -/
def Below (less more : Prog σ ε α) : Prop :=
  ∀ state outcome, less state = some outcome → more state = some outcome

theorem Below.refl (body : Prog σ ε α) : Below body body := fun _ _ ran => ran

theorem Below.trans {first second third : Prog σ ε α} (left : Below first second)
    (right : Below second third) : Below first third :=
  fun state outcome ran => right state outcome (left state outcome ran)

theorem Below.bind {first first' : Prog σ ε α} {next next' : α → Prog σ ε β}
    (firstBelow : Below first first') (nextBelow : ∀ value, Below (next value) (next' value)) :
    Below (first >>= next) (first' >>= next') := by
  intro state outcome ran
  obtain ⟨result, final⟩ := outcome
  rcases run_bind_cases ran with ⟨err, firstRan, rfl⟩ | ⟨value, state', firstRan, nextRan⟩
  · exact run_bind_of_error (firstBelow _ _ firstRan)
  · rw [run_bind_of_ok (firstBelow _ _ firstRan)]
    exact nextBelow value _ _ nextRan

theorem Below.attempt {body body' : Prog σ ε α} (below : Below body body') :
    Below (attempt body) (attempt body') := by
  intro state outcome ran
  obtain ⟨result, final⟩ := outcome
  obtain ⟨rfl, inner, bodyRan⟩ := run_attempt_cases ran
  exact run_attempt_of_some (below _ _ bodyRan)

theorem Below.each {body body' : α → Prog σ ε Unit} (entries : List α)
    (below : ∀ entry, Below (body entry) (body' entry)) :
    Below (each entries body) (each entries body') := by
  induction entries with
  | nil => exact .refl _
  | cons entry rest ih => exact (below entry).bind fun _ => ih

/-! ## Tying the recursion -/

/-- A recursive routine: its body, given the recursive call. -/
abbrev Body (σ ε γ : Type) : Type := (γ → Prog σ ε Unit) → γ → Prog σ ε Unit

/-- The body may only use its recursive call by running it. -/
def Body.Monotone (body : Body σ ε γ) : Prop :=
  ∀ call call' : γ → Prog σ ε Unit, (∀ c, Below (call c) (call' c)) →
    ∀ c, Below (body call c) (body call' c)

/-- Run a routine with at most `depth` nested calls. -/
def iterate (body : Body σ ε γ) : Nat → γ → Prog σ ε Unit
  | 0, _ => fun _ => none
  | depth + 1, c => body (iterate body depth) c

theorem iterate_below_succ {body : Body σ ε γ} (mono : body.Monotone) (depth : Nat) (c : γ) :
    Below (iterate body depth c) (iterate body (depth + 1) c) := by
  induction depth generalizing c with
  | zero => intro state outcome ran; cases ran
  | succ depth ih => exact mono _ _ ih c

theorem iterate_below {body : Body σ ε γ} (mono : body.Monotone) {depth depth' : Nat}
    (le : depth ≤ depth') (c : γ) :
    Below (iterate body depth c) (iterate body depth' c) := by
  induction le with
  | refl => exact .refl _
  | step _ ih => exact ih.trans (iterate_below_succ mono _ c)

open Classical in
/-- The result of a recursive routine at any sufficient depth, and `none` where
no depth suffices. -/
noncomputable def fixpoint (body : Body σ ε γ) (c : γ) : Prog σ ε Unit := fun state =>
  if finishes : ∃ depth, (iterate body depth c state).isSome then
    iterate body finishes.choose c state
  else
    none

theorem fixpoint_eq_some {body : Body σ ε γ} (mono : body.Monotone) {c : γ} {state : σ}
    {outcome : Except ε Unit × σ} :
    fixpoint body c state = some outcome ↔
      ∃ depth, iterate body depth c state = some outcome := by
  constructor
  · intro ran
    rw [fixpoint] at ran
    split at ran
    · exact ⟨_, ran⟩
    · contradiction
  · rintro ⟨depth, ran⟩
    have finishes : ∃ depth, (iterate body depth c state).isSome := ⟨depth, by simp [ran]⟩
    rw [fixpoint, dif_pos finishes]
    obtain ⟨other, otherRan⟩ := Option.isSome_iff_exists.mp finishes.choose_spec
    have left := iterate_below mono (Nat.le_max_left depth finishes.choose) c _ _ ran
    have right := iterate_below mono (Nat.le_max_right depth finishes.choose) c _ _ otherRan
    rw [otherRan, ← right, left]

/-- Every depth stays below the limit. -/
theorem iterate_below_fixpoint {body : Body σ ε γ} (mono : body.Monotone) (depth : Nat) (c : γ) :
    Below (iterate body depth c) (fixpoint body c) :=
  fun _ _ ran => (fixpoint_eq_some mono).mpr ⟨depth, ran⟩

/-- A routine that always finishes satisfies its own recursion equation. -/
theorem fixpoint_unfold {body : Body σ ε γ} (mono : body.Monotone)
    (total : ∀ c state, (fixpoint body c state).isSome) (c : γ) :
    fixpoint body c = body (fixpoint body) c := by
  funext state
  obtain ⟨outcome, ran⟩ := Option.isSome_iff_exists.mp (total c state)
  obtain ⟨depth, depthRan⟩ := (fixpoint_eq_some mono).mp ran
  have deeper := iterate_below_succ mono depth c _ _ depthRan
  rw [ran]
  exact (mono _ _ (iterate_below_fixpoint mono depth) c _ _ deeper).symm

end Prog

end Rind
