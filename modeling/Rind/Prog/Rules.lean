import Rind.Prog.Core

/-!
# Invariant and termination rules

`Within inv rel body` says that from a state satisfying `inv`, every finished
run of `body`, with a value or an error, ends in a state that satisfies `inv`
again and stands in `rel` to the first one.  `Halts inv body` says that a run
from such a state does finish.

Both pass through sequencing and loops, which `Rule` states once for the two of
them, and through the recursion of `Prog.iterate`.  A property of a whole
cascade of nested calls so reduces to one obligation for the routine's body.
-/

namespace Rind.Prog

variable {σ ε α γ : Type}

/-- Every finished run from a state in `inv` stays in `inv` and moves along
`rel`. -/
def Within (inv : σ → Prop) (rel : σ → σ → Prop) (body : Prog σ ε Unit) : Prop :=
  ∀ state, inv state → ∀ result final, body state = some (result, final) →
    inv final ∧ rel state final

/-- Every run from a state in `inv` finishes in a state in `inv`. -/
def Halts (inv : σ → Prop) (body : Prog σ ε Unit) : Prop :=
  ∀ state, inv state → ∃ result final, body state = some (result, final) ∧ inv final

/-! ## Structural rules -/

/-- A property of programs that passes through their structure. -/
structure Rule (holds : Prog σ ε Unit → Prop) : Prop where
  pure : holds (pure ())
  bind {first next : Prog σ ε Unit} : holds first → holds next → holds (first >>= fun _ => next)
  attempt {body : Prog σ ε Unit} : holds body → holds (attempt body)
  /-- The property looks at each starting state alone. -/
  pointwise {body : Prog σ ε Unit} :
    (∀ state, ∃ other, holds other ∧ body state = other state) → holds body

namespace Rule

variable {holds : Prog σ ε Unit → Prop}

theorem read (rule : Rule holds) {view : σ → α} {next : α → Prog σ ε Unit}
    (nextHolds : ∀ state, holds (next (view state))) : holds (read view >>= next) :=
  rule.pointwise fun state => ⟨next (view state), nextHolds state, rfl⟩

theorem each (rule : Rule holds) {entries : List α} {body : α → Prog σ ε Unit}
    (bodyHolds : ∀ entry ∈ entries, holds (body entry)) : holds (each entries body) := by
  induction entries with
  | nil => exact rule.pure
  | cons entry rest ih =>
      apply rule.bind (bodyHolds entry (by simp))
      exact ih fun other member => bodyHolds other (by simp [member])

end Rule

theorem Within.bind {inv : σ → Prop} {rel : σ → σ → Prop}
    (trans : ∀ a b c, rel a b → rel b c → rel a c) {first next : Prog σ ε Unit}
    (firstWithin : Within inv rel first) (nextWithin : Within inv rel next) :
    Within inv rel (first >>= fun _ => next) := by
  intro state holds result final ran
  rcases run_bind_cases ran with ⟨err, firstRan, -⟩ | ⟨_, state', firstRan, nextRan⟩
  · exact firstWithin state holds _ _ firstRan
  · obtain ⟨holds', moved⟩ := firstWithin state holds _ _ firstRan
    obtain ⟨holds'', moved'⟩ := nextWithin state' holds' _ _ nextRan
    exact ⟨holds'', trans _ _ _ moved moved'⟩

/-- Staying within an invariant and a preorder is structural. -/
theorem Within.rule {inv : σ → Prop} {rel : σ → σ → Prop} (refl : ∀ state, rel state state)
    (trans : ∀ a b c, rel a b → rel b c → rel a c) :
    Rule (Within (ε := ε) inv rel) where
  pure := by
    intro state holds result final ran
    cases ran
    exact ⟨holds, refl state⟩
  bind := Within.bind trans
  attempt bodyWithin := by
    intro state holds result final ran
    obtain ⟨-, inner, bodyRan⟩ := run_attempt_cases ran
    exact bodyWithin state holds _ _ bodyRan
  pointwise same := by
    intro state holds result final ran
    obtain ⟨other, otherWithin, equal⟩ := same state
    exact otherWithin state holds result final (equal ▸ ran)

theorem Halts.bind {inv : σ → Prop} {first next : Prog σ ε Unit}
    (firstHalts : Halts inv first) (nextHalts : Halts inv next) :
    Halts inv (first >>= fun _ => next) := by
  intro state holds
  obtain ⟨result, state', firstRan, holds'⟩ := firstHalts state holds
  cases result with
  | error err => exact ⟨_, state', run_bind_of_error firstRan, holds'⟩
  | ok _ =>
      obtain ⟨result, final, nextRan, holds''⟩ := nextHalts state' holds'
      exact ⟨result, final, by rw [run_bind_of_ok firstRan, nextRan], holds''⟩

theorem Halts.change {inv : σ → Prop} {update : σ → σ}
    (keeps : ∀ state, inv state → inv (update state)) :
    Halts inv (change update : Prog σ ε Unit) :=
  fun state holds => ⟨_, update state, rfl, keeps state holds⟩

/-- Finishing within an invariant is structural. -/
theorem Halts.rule {inv : σ → Prop} : Rule (Halts (ε := ε) inv) where
  pure state holds := ⟨_, state, rfl, holds⟩
  bind := Halts.bind
  attempt bodyHalts := by
    intro state holds
    obtain ⟨result, final, ran, holds'⟩ := bodyHalts state holds
    exact ⟨_, final, run_attempt_of_some ran, holds'⟩
  pointwise same := by
    intro state holds
    obtain ⟨other, otherHalts, equal⟩ := same state
    rw [equal]
    exact otherHalts state holds

/-- What one round of a successful loop establishes, and all rounds keep, holds
after the loop. -/
theorem each_reaches (inv goal : σ → Prop) {entries : List α} {body : α → Prog σ ε Unit}
    {entry : α} (listed : entry ∈ entries)
    (keeps : ∀ other ∈ entries, Within inv (fun state final => goal state → goal final) (body other))
    (reaches : ∀ state final, inv state → body entry state = some (.ok (), final) → goal final)
    {state final : σ} (holds : inv state) (ran : each entries body state = some (.ok (), final)) :
    goal final := by
  induction entries generalizing state with
  | nil => contradiction
  | cons first rest ih =>
      rw [each_cons] at ran
      rcases run_bind_cases ran with ⟨err, -, same⟩ | ⟨_, middle, firstRan, restRan⟩
      · contradiction
      · obtain ⟨middleHolds, -⟩ := keeps first (by simp) state holds _ _ firstRan
        have restKeeps : ∀ other ∈ rest,
            Within inv (fun state final => goal state → goal final) (body other) :=
          fun other member => keeps other (List.mem_cons_of_mem _ member)
        rcases List.mem_cons.mp listed with rfl | listed
        · have reached := reaches state middle holds firstRan
          have rule : Rule (Within (ε := ε) inv fun state final => goal state → goal final) :=
            Within.rule (fun _ => id) fun _ _ _ first second => second ∘ first
          exact (rule.each restKeeps middle middleHolds _ _ restRan).2 reached
        · exact ih listed restKeeps middleHolds restRan

/-- Every round of a loop meets a condition in the state it starts in. -/
def EachMeets (body : α → Prog σ ε Unit) (condition : α → σ → Prop) : List α → σ → Prop
  | [], _ => True
  | entry :: rest, state => condition entry state ∧
      ∀ next, body entry state = some (.ok (), next) → EachMeets body condition rest next

/-- What every round keeps that meets its condition, whether it fails or not, is kept by
the loop. -/
theorem EachMeets.keeps {inv : σ → Prop} {body : α → Prog σ ε Unit} {condition : α → σ → Prop}
    (keeps : ∀ entry state result final, inv state → condition entry state →
      body entry state = some (result, final) → inv final)
    {entries : List α} {state final : σ} {result : Except ε Unit}
    (meets : EachMeets body condition entries state) (initial : inv state)
    (ran : each entries body state = some (result, final)) : inv final := by
  induction entries generalizing state with
  | nil =>
      cases ran
      exact initial
  | cons entry rest ih =>
      rw [each_cons] at ran
      rcases run_bind_cases ran with ⟨err, entryRan, -⟩ | ⟨_, next, entryRan, restRan⟩
      · exact keeps entry state _ _ initial meets.1 entryRan
      · exact ih (meets.2 next entryRan) (keeps entry state _ _ initial meets.1 entryRan) restRan

/-! ## Recursion -/

/-- One obligation for the body covers every depth of nested calls. -/
theorem iterate_within {inv : σ → Prop} {rel : σ → σ → Prop} {body : Body σ ε γ}
    {good : γ → Prop}
    (step : ∀ call : γ → Prog σ ε Unit, (∀ c, good c → Within inv rel (call c)) →
      ∀ c, good c → Within inv rel (body call c))
    (depth : Nat) {c : γ} (goodCall : good c) :
    Within inv rel (iterate body depth c) := by
  induction depth generalizing c with
  | zero => intro state _ result final ran; cases ran
  | succ depth ih => exact step _ (fun c' goodCall' => ih goodCall') c goodCall

theorem fixpoint_within {inv : σ → Prop} {rel : σ → σ → Prop} {body : Body σ ε γ}
    (mono : body.Monotone) {good : γ → Prop}
    (step : ∀ call : γ → Prog σ ε Unit, (∀ c, good c → Within inv rel (call c)) →
      ∀ c, good c → Within inv rel (body call c))
    {c : γ} (goodCall : good c) :
    Within inv rel (fixpoint body c) := by
  intro state holds result final ran
  obtain ⟨depth, depthRan⟩ := (fixpoint_eq_some mono).mp ran
  exact iterate_within step depth goodCall state holds result final depthRan

/-- A recursion finishes when the invariant is indexed by a weight that every
nested call lowers. -/
theorem iterate_halts {ι : Type} {body : Body σ ε γ} {good : γ → Prop}
    {inv : ι → σ → Prop} {weight : ι → Nat}
    (step : ∀ index (call : γ → Prog σ ε Unit),
      (∀ index', weight index' < weight index → ∀ c, good c → Halts (inv index') (call c)) →
        ∀ c, good c → Halts (inv index) (body call c))
    {depth : Nat} {index : ι} (enough : weight index < depth) {c : γ} (goodCall : good c) :
    Halts (inv index) (iterate body depth c) := by
  induction depth generalizing index c with
  | zero => exact absurd enough (Nat.not_lt_zero _)
  | succ depth ih =>
      apply step index _ _ c goodCall
      intro index' lower c' goodCall'
      exact ih (by omega) goodCall'

end Rind.Prog
