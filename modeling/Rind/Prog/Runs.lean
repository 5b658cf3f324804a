import Mathlib.Data.List.Infix

/-!
# Runs of a machine

A machine takes one step for each label.  A run is a list of labels, and a
condition on the steps of a run is a condition on each label and the state it
is taken in.
-/

namespace Rind.Runs

variable {σ ℓ : Type}

/-- The state a run ends in. -/
def run (step : σ → ℓ → σ) (state : σ) (labels : List ℓ) : σ := labels.foldl step state

section Run

variable (step : σ → ℓ → σ) (state : σ)

@[simp] theorem run_nil : run step state [] = state := rfl

@[simp] theorem run_cons (label : ℓ) (rest : List ℓ) :
    run step state (label :: rest) = run step (step state label) rest := rfl

theorem run_append (before after : List ℓ) :
    run step state (before ++ after) = run step (run step state before) after :=
  List.foldl_append

end Run

/-- Every step of a run meets a condition in the state before it. -/
def Along (step : σ → ℓ → σ) (condition : σ → ℓ → Prop) : σ → List ℓ → Prop
  | _, [] => True
  | state, label :: rest => condition state label ∧ Along step condition (step state label) rest

/-- How many steps of a run pass a test. -/
def count (step : σ → ℓ → σ) (test : σ → ℓ → Bool) : σ → List ℓ → Nat
  | _, [] => 0
  | state, label :: rest => (test state label).toNat + count step test (step state label) rest

variable {step : σ → ℓ → σ} {condition : σ → ℓ → Prop} {state : σ}

/-- A beginning of a run meets the condition where the run does. -/
theorem Along.append {before after : List ℓ} :
    Along step condition state (before ++ after) ↔
      Along step condition state before ∧
        Along step condition (run step state before) after := by
  induction before generalizing state with
  | nil => simp [Along]
  | cons label rest ih => rw [List.cons_append, Along, Along, ih, and_assoc, run_cons]

/-- A condition on the labels alone. -/
theorem Along.of_forall {accepts : ℓ → Prop} {labels : List ℓ}
    (every : ∀ label ∈ labels, accepts label) :
    Along step (fun _ label => accepts label) state labels := by
  induction labels generalizing state with
  | nil => trivial
  | cons label rest ih =>
      obtain ⟨first, others⟩ := List.forall_mem_cons.mp every
      exact ⟨first, ih others⟩

/-- Conditions that agree on every step. -/
theorem Along.congr {other : σ → ℓ → Prop}
    (same : ∀ state label, condition state label ↔ other state label) {labels : List ℓ} :
    Along step condition state labels ↔ Along step other state labels := by
  induction labels generalizing state with
  | nil => rfl
  | cons label rest ih => exact and_congr (same state label) ih

/-- What every step keeps holds at the end of a run. -/
theorem run_invariant {inv : σ → Prop} (keeps : ∀ state label, inv state → inv (step state label))
    (labels : List ℓ) (initial : inv state) : inv (run step state labels) := by
  induction labels generalizing state with
  | nil => exact initial
  | cons label rest ih => exact ih (keeps state label initial)

/-- What every step keeps that meets the condition holds at the end of a run. -/
theorem Along.invariant {inv : σ → Prop}
    (keeps : ∀ state label, inv state → condition state label → inv (step state label))
    {labels : List ℓ} (along : Along step condition state labels) (initial : inv state) :
    inv (run step state labels) := by
  induction labels generalizing state with
  | nil => exact initial
  | cons label rest ih => exact ih along.2 (keeps state label initial along.1)

/-- And it holds in every state of the run. -/
theorem Along.visits {inv : σ → Prop}
    (keeps : ∀ state label, inv state → condition state label → inv (step state label))
    {labels before : List ℓ} (along : Along step condition state labels) (initial : inv state)
    (beginning : before <+: labels) : inv (run step state before) := by
  obtain ⟨after, rfl⟩ := beginning
  exact (Along.append.mp along).1.invariant keeps initial

/-- A condition that follows from what every step keeps and from the condition of its
own step. -/
theorem Along.mono {other : σ → ℓ → Prop} {inv : σ → Prop}
    (keeps : ∀ state label, inv state → condition state label → inv (step state label))
    (follows : ∀ state label, inv state → condition state label → other state label)
    {labels : List ℓ} (along : Along step condition state labels) (initial : inv state) :
    Along step other state labels := by
  induction labels generalizing state with
  | nil => trivial
  | cons label rest ih =>
      exact ⟨follows state label initial along.1,
        ih along.2 (keeps state label initial along.1)⟩

/-- Conditions that agree on every step from a state that meets what every step keeps. -/
theorem along_congr {other : σ → ℓ → Prop} {inv : σ → Prop}
    (keeps : ∀ state label, inv state → inv (step state label))
    (same : ∀ state label, inv state → (condition state label ↔ other state label))
    (labels : List ℓ) (initial : inv state) :
    Along step condition state labels ↔ Along step other state labels := by
  induction labels generalizing state with
  | nil => rfl
  | cons label rest ih =>
      exact and_congr (same state label initial) (ih (keeps state label initial))

/-- Where a step keeps an invariant exactly when it meets the condition, the
steps of a run meet the condition exactly when the invariant holds in every state
of the run. -/
theorem along_iff {inv : σ → Prop}
    (exact_ : ∀ state label, inv state → (inv (step state label) ↔ condition state label))
    (labels : List ℓ) (initial : inv state) :
    Along step condition state labels ↔
      ∀ before, before <+: labels → inv (run step state before) := by
  constructor
  · rintro along before ⟨after, rfl⟩
    have keeps : ∀ state label, inv state → condition state label → inv (step state label) :=
      fun state label holds => (exact_ state label holds).mpr
    exact (Along.append.mp along).1.invariant keeps initial
  · intro visited
    induction labels generalizing state with
    | nil => trivial
    | cons label rest ih =>
        have first : inv (step state label) := visited [label] ⟨rest, rfl⟩
        refine ⟨(exact_ state label initial).mp first, ih first ?_⟩
        intro before beginning
        exact visited (label :: before) (List.cons_prefix_cons.mpr ⟨rfl, beginning⟩)

/-- Two tests that agree on every step of a run count the same. -/
theorem Along.count_congr {inv : σ → Prop} {first second : σ → ℓ → Bool}
    (keeps : ∀ state label, inv state → condition state label → inv (step state label))
    (agree : ∀ state label, inv state → condition state label →
      first state label = second state label)
    {labels : List ℓ} (along : Along step condition state labels) (initial : inv state) :
    count step first state labels = count step second state labels := by
  induction labels generalizing state with
  | nil => rfl
  | cons label rest ih =>
      rw [count, count, agree state label initial along.1,
        ih along.2 (keeps state label initial along.1)]

/-- A test that no step passes. -/
theorem count_false {labels : List ℓ} : count step (fun _ _ => false) state labels = 0 := by
  induction labels generalizing state with
  | nil => rfl
  | cons label rest ih => rw [count, ih, Bool.toNat_false]

end Rind.Runs
