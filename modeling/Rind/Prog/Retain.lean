import Rind.Prog.Core
import Rind.Data.Dependencies
import Mathlib.Data.List.Perm.Basic

/-!
# Rounds of retain

Items wait in a list until what they need is done.  A round goes through the list and
takes out those that need not wait any more, each of which is then done itself, and the
rounds end with one that takes out nothing.
-/

namespace Rind.Prog

variable {σ ε α κ : Type}

/-- Keep the items of a list that a test keeps, which may change the state. Also says
whether an item was taken out. -/
def retain (keep : α → Prog σ ε Bool) : List α → Prog σ ε (List α × Bool)
  | [] => pure ([], false)
  | item :: rest => do
      let kept ← keep item
      let (others, progress) ← retain keep rest
      pure (if kept then (item :: others, progress) else (others, true))

/-- Rounds of `retain`, until one makes no progress. -/
def settle (keep : α → Prog σ ε Bool) : Nat → List α → Prog σ ε (List α)
  | 0, _ => fun _ => none
  | limit + 1, pending => do
      let (left, progress) ← retain keep pending
      if progress then settle keep limit left else pure left

/-- Each item of a list finds done what it needs. -/
def Supplied (needs : α → List κ) (key : α → κ) : (κ → Prop) → List α → Prop
  | _, [] => True
  | done, item :: rest =>
      (∀ needed ∈ needs item, done needed) ∧
        Supplied needs key (fun known => done known ∨ known = key item) rest

/-- A test keeps the items that wait, and takes out the others with an effect. Where the effect
ends, what the item stands for is done. -/
structure Releases (done : σ → κ → Prop) (needs : α → List κ) (key : α → κ)
    (keep : α → Prog σ ε Bool) (effect : α → Prog σ ε Unit) (items : List α) : Prop where
  waits : ∀ item ∈ items, ∀ state, (∃ needed ∈ needs item, ¬ done state needed) →
    keep item state = some (.ok true, state)
  goes : ∀ item ∈ items, ∀ state, (∀ needed ∈ needs item, done state needed) →
    keep item state = (effect item >>= fun _ => pure false) state
  effects : ∀ item ∈ items, ∀ state result after, effect item state = some (result, after) →
    result = .ok () ∧ ∀ known, done after known ↔ done state known ∨ known = key item

/-! ## Orders of items -/

section Supplied

variable {needs : α → List κ} {key : α → κ} {done : κ → Prop} {first second : List α}

theorem Supplied.congr {other : κ → Prop} (same : ∀ known, done known ↔ other known) :
    Supplied needs key done first ↔ Supplied needs key other first := by
  rw [funext fun known => propext (same known)]

theorem Supplied.append : Supplied needs key done (first ++ second) ↔
    Supplied needs key done first ∧
      Supplied needs key (fun known => done known ∨ known ∈ first.map key) second := by
  induction first generalizing done with
  | nil => simp [Supplied]
  | cons item rest ih =>
      rw [List.cons_append, Supplied, Supplied, ih, and_assoc]
      apply and_congr_right'
      apply and_congr_right'
      apply congr
      intro known
      rw [List.map_cons, List.mem_cons, or_assoc]

/-- What an item needs was done before, or stands for an earlier item. -/
theorem Supplied.earlier {item : α} (supplied : Supplied needs key done (first ++ item :: second))
    {needed : κ} (listed : needed ∈ needs item) : done needed ∨ ∃ other ∈ first, key other = needed := by
  exact ((Supplied.append.mp supplied).2.1 needed listed).imp_right List.mem_map.mp

end Supplied

/-! ## A round, and all rounds -/

section Rounds

variable {done : σ → κ → Prop} {needs : α → List κ} {key : α → κ}
  {keep : α → Prog σ ε Bool} {effect : α → Prog σ ε Unit} {items : List α}

/-- What was taken out of a list, and what is left of it. -/
structure Parts (done : σ → κ → Prop) (needs : α → List κ) (key : α → κ)
    (effect : α → Prog σ ε Unit) (pending : List α) (state : σ) (gone left : List α) (after : σ) :
    Prop where
  ran : each gone effect state = some (.ok (), after)
  perm : (gone ++ left).Perm pending
  sublist : left.Sublist pending
  supplied : Supplied needs key (done state) gone
  known : ∀ known, done after known ↔ done state known ∨ known ∈ gone.map key

theorem Parts.trans {pending gone left gone' left' : List α} {state after final : σ}
    (first : Parts done needs key effect pending state gone left after)
    (second : Parts done needs key effect left after gone' left' final) :
    Parts done needs key effect pending state (gone ++ gone') left' final where
  ran := (each_append_of_ok first.ran).trans second.ran
  perm := by
    rw [List.append_assoc]
    exact (second.perm.append_left gone).trans first.perm
  sublist := second.sublist.trans first.sublist
  supplied := Supplied.append.mpr ⟨first.supplied, (Supplied.congr first.known).mp second.supplied⟩
  known := by
    intro known
    rw [second.known, first.known, List.map_append, List.mem_append, or_assoc]

theorem Parts.nil (pending : List α) (state : σ) :
    Parts done needs key effect pending state [] pending state :=
  ⟨rfl, .refl _, .refl _, trivial, by simp⟩

/-- An item that is kept. -/
theorem Parts.cons_left {pending gone left : List α} {state after : σ}
    (parts : Parts done needs key effect pending state gone left after) (item : α) :
    Parts done needs key effect (item :: pending) state gone (item :: left) after :=
  { parts with
    perm := List.perm_middle.trans (parts.perm.cons item)
    sublist := parts.sublist.cons_cons item }

/-- An item that is taken out. -/
theorem Parts.take {item : α} (rest : List α) {state after : σ}
    (ready : ∀ needed ∈ needs item, done state needed)
    (ran : effect item state = some (.ok (), after))
    (known : ∀ known, done after known ↔ done state known ∨ known = key item) :
    Parts done needs key effect (item :: rest) state [item] rest after where
  ran := by rw [each_singleton, ran]
  perm := .refl _
  sublist := List.sublist_cons_self ..
  supplied := ⟨ready, trivial⟩
  known := by simpa using known

/-- After some items were taken out, the effect of a further one does not end. -/
def Hangs (done : σ → κ → Prop) (needs : α → List κ) (key : α → κ)
    (effect : α → Prog σ ε Unit) (pending : List α) (state : σ) : Prop :=
  ∃ gone left after, Parts done needs key effect pending state gone left after ∧
    ∃ item ∈ left, (∀ needed ∈ needs item, done after needed) ∧ effect item after = none

theorem Hangs.after {pending gone left : List α} {state after : σ}
    (parts : Parts done needs key effect pending state gone left after)
    (hangs : Hangs done needs key effect left after) :
    Hangs done needs key effect pending state := by
  obtain ⟨gone', left', final, parts', item, listed, ready, stuck⟩ := hangs
  exact ⟨_, left', final, parts.trans parts', item, listed, ready, stuck⟩

theorem Hangs.cons {pending : List α} {state : σ}
    (hangs : Hangs done needs key effect pending state) (item : α) :
    Hangs done needs key effect (item :: pending) state := by
  obtain ⟨gone, left, after, parts, other, listed, ready, stuck⟩ := hangs
  exact ⟨gone, _, after, parts.cons_left item, other, List.mem_cons_of_mem _ listed, ready, stuck⟩

/-- A round takes out some items, or does not end. -/
theorem retain_cases (releases : Releases done needs key keep effect items) {pending : List α}
    (inside : pending ⊆ items) (state : σ) :
    (retain keep pending state = none ∧ Hangs done needs key effect pending state) ∨
      ∃ gone left after, retain keep pending state = some (.ok (left, !gone.isEmpty), after) ∧
        Parts done needs key effect pending state gone left after ∧
        (gone = [] → ∀ item ∈ left, ∃ needed ∈ needs item, ¬ done after needed) := by
  induction pending generalizing state with
  | nil => exact .inr ⟨[], [], state, rfl, .nil [] state, fun _ => List.forall_mem_nil _⟩
  | cons item rest ih =>
      have member : item ∈ items := inside List.mem_cons_self
      have inside : rest ⊆ items := fun other listed => inside (List.mem_cons_of_mem _ listed)
      by_cases ready : ∀ needed ∈ needs item, done state needed
      · have kept := releases.goes item member state ready
        cases affected : effect item state with
        | none =>
            refine .inl ⟨?_, [], _, state, .nil _ state, item, List.mem_cons_self, ready, affected⟩
            rw [retain, run_bind, kept, run_bind, affected]
        | some outcome =>
            obtain ⟨result, after⟩ := outcome
            obtain ⟨rfl, known⟩ := releases.effects item member state result after affected
            have taken := Parts.take rest ready affected known
            rw [run_bind_of_ok affected] at kept
            rcases ih inside after with ⟨ran, hangs⟩ | ⟨gone, left, final, ran, parts, -⟩
            · refine .inl ⟨?_, hangs.after taken⟩
              rw [retain, run_bind_of_ok kept, run_bind, ran]
            · refine .inr ⟨[item] ++ gone, left, final, ?_, taken.trans parts, fun none_ => ?_⟩
              · rw [retain, run_bind_of_ok kept, run_bind_of_ok ran]
                rfl
              · cases none_
      · push Not at ready
        have kept := releases.waits item member state ready
        rcases ih inside state with ⟨ran, hangs⟩ | ⟨gone, left, final, ran, parts, waiting⟩
        · refine .inl ⟨?_, hangs.cons item⟩
          rw [retain, run_bind_of_ok kept, run_bind, ran]
        · refine .inr ⟨gone, item :: left, final, ?_, parts.cons_left item, fun none_ => ?_⟩
          · rw [retain, run_bind_of_ok kept, run_bind_of_ok ran]
            rfl
          · subst none_
            cases parts.ran
            exact List.forall_mem_cons.mpr ⟨ready, waiting rfl⟩

/-- The rounds end, unless an effect does not. What was taken out was supplied in its order, and
each item that is left waits for something that is not done. -/
theorem settle_cases (releases : Releases done needs key keep effect items) {pending : List α}
    (inside : pending ⊆ items) (state : σ) {limit : Nat} (enough : pending.length < limit) :
    (settle keep limit pending state = none ∧ Hangs done needs key effect pending state) ∨
      ∃ gone left after, settle keep limit pending state = some (.ok left, after) ∧
        Parts done needs key effect pending state gone left after ∧
        ∀ item ∈ left, ∃ needed ∈ needs item, ¬ done after needed := by
  induction limit generalizing pending state with
  | zero => exact absurd enough (Nat.not_lt_zero _)
  | succ limit ih =>
      rcases retain_cases releases inside state with ⟨ran, hangs⟩ |
        ⟨gone, left, after, ran, parts, waiting⟩
      · refine .inl ⟨?_, hangs⟩
        rw [settle, run_bind, ran]
      · rw [settle, run_bind_of_ok ran]
        cases gone with
        | nil => exact .inr ⟨[], left, after, rfl, parts, waiting rfl⟩
        | cons item rest =>
            have fewer := parts.perm.length_eq
            rw [List.length_append, List.length_cons] at fewer
            have subset : left ⊆ items := fun item listed => inside (parts.sublist.subset listed)
            rcases ih subset after (by omega) with ⟨ran', hangs⟩ |
              ⟨gone', left', final, ran', parts', waiting'⟩
            · exact .inl ⟨ran', hangs.after parts⟩
            · exact .inr ⟨_, left', final, ran', parts.trans parts', waiting'⟩

/-- The rounds end where all effects do. -/
theorem settle_spec (releases : Releases done needs key keep effect items) {pending : List α}
    (inside : pending ⊆ items) (ends : ∀ item ∈ items, ∀ state, effect item state ≠ none)
    (state : σ) {limit : Nat} (enough : pending.length < limit) :
    ∃ gone left after, settle keep limit pending state = some (.ok left, after) ∧
      Parts done needs key effect pending state gone left after ∧
      ∀ item ∈ left, ∃ needed ∈ needs item, ¬ done after needed := by
  apply (settle_cases releases inside state enough).resolve_left
  rintro ⟨-, gone, left, after, parts, item, listed, -, stuck⟩
  exact ends item (inside (parts.sublist.subset listed)) after stuck

end Rounds

end Rind.Prog
