import Rind.Prog.Core

/-!
# Loops

A loop runs its body until the body asks to leave it.  Like a recursion, it is run
with at most a given number of rounds, and has not finished where they do not suffice.
-/

namespace Rind.Prog

variable {σ ε : Type}

/-- Run a body, which says whether to go on, for at most some rounds. -/
def loop (body : Prog σ ε Bool) : Nat → Prog σ ε Unit
  | 0 => fun _ => none
  | limit + 1 => do
      let goOn ← body
      if goOn then loop body limit else pure ()

/-- The states after a number of rounds that all went on. -/
inductive Rounds (body : Prog σ ε Bool) (start : σ) : Nat → σ → Prop
  | none : Rounds body start 0 start
  | next {count : Nat} {state after : σ} (before : Rounds body start count state)
      (ran : body state = some (.ok true, after)) : Rounds body start (count + 1) after

variable {body : Prog σ ε Bool} {state final : σ} {result : Except ε Unit}

theorem loop_succ_cases {limit : Nat} (ran : loop body (limit + 1) state = some (result, final)) :
    (∃ err, body state = some (.error err, final) ∧ result = .error err) ∨
      (body state = some (.ok false, final) ∧ result = .ok ()) ∨
        ∃ next, body state = some (.ok true, next) ∧
          loop body limit next = some (result, final) := by
  rcases run_bind_cases ran with failed | ⟨goOn, next, bodyRan, restRan⟩
  · exact .inl failed
  · cases goOn with
    | false =>
        cases restRan
        exact .inr (.inl ⟨bodyRan, rfl⟩)
    | true => exact .inr (.inr ⟨next, bodyRan, restRan⟩)

/-- How a loop ends that keeps an invariant: with an error of its body, or when its
body asks to leave it, in a state of the invariant. -/
theorem loop_ends {inv : σ → Prop}
    (keeps : ∀ state next, inv state → body state = some (.ok true, next) → inv next)
    {limit : Nat} (initial : inv state) (ran : loop body limit state = some (result, final)) :
    ∃ last, inv last ∧
      ((∃ err, body last = some (.error err, final) ∧ result = .error err) ∨
        body last = some (.ok false, final) ∧ result = .ok ()) := by
  induction limit generalizing state with
  | zero => cases ran
  | succ limit ih =>
      rcases loop_succ_cases ran with failed | left | ⟨next, bodyRan, restRan⟩
      · exact ⟨state, initial, .inl failed⟩
      · exact ⟨state, initial, .inr left⟩
      · exact ih (keeps state next initial bodyRan) restRan

/-- A loop ends if its body does, and lowers a measure where it goes on. -/
theorem loop_halts {inv : σ → Prop} (measure : σ → Nat)
    (total : ∀ state, inv state → (body state).isSome)
    (keeps : ∀ state next, inv state → body state = some (.ok true, next) →
      inv next ∧ measure next < measure state)
    {limit : Nat} (initial : inv state) (enough : measure state < limit) :
    (loop body limit state).isSome := by
  induction limit generalizing state with
  | zero => exact absurd enough (Nat.not_lt_zero _)
  | succ limit ih =>
      obtain ⟨⟨outcome, next⟩, bodyRan⟩ := Option.isSome_iff_exists.mp (total state initial)
      cases outcome with
      | error err => simp [loop, run_bind_of_error bodyRan]
      | ok goOn =>
          rw [loop, run_bind_of_ok bodyRan]
          cases goOn with
          | false => rfl
          | true =>
              obtain ⟨holds, lower⟩ := keeps state next initial bodyRan
              exact ih holds (by omega)

/-- What every round keeps holds after any number of rounds. -/
theorem Rounds.invariant {inv : Nat → σ → Prop} {start : σ}
    (keeps : ∀ count state next, inv count state → body state = some (.ok true, next) →
      inv (count + 1) next)
    {count : Nat} (rounds : Rounds body start count state) (initial : inv 0 start) :
    inv count state := by
  induction rounds with
  | none => exact initial
  | next before ran ih => exact keeps _ _ _ ih ran

end Rind.Prog
