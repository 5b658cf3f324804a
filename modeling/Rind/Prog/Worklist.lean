import Rind.Prog.Rules
import Mathlib.Logic.Hydra
import Mathlib.Logic.Relation

/-!
# Ranks and queues

Two reasons to finish.  A recursion along a graph without cycles finishes, for
each call has a higher rank than the calls it leads to.  A queue is worked off,
in whichever order, if an action queues only actions below itself.
-/

namespace Rind

/-! ## Ranks -/

section Ranks

variable {α : Type} {edge : α → α → Prop}

open Classical in
/-- The nodes of a set that can be reached from a node. -/
noncomputable def reachable (edge : α → α → Prop) (nodes : Finset α) (source : α) : Finset α :=
  nodes.filter (Relation.TransGen edge source)

theorem mem_reachable {nodes : Finset α} {source target : α} :
    target ∈ reachable edge nodes source ↔
      target ∈ nodes ∧ Relation.TransGen edge source target := by
  classical
  rw [reachable, Finset.mem_filter]

theorem card_reachable_le (edge : α → α → Prop) (nodes : Finset α) (source : α) :
    (reachable edge nodes source).card ≤ nodes.card :=
  Finset.card_le_card fun _ member => (mem_reachable.mp member).1

/-- Where there is no cycle, an edge leads to a node from which less can be
reached. -/
theorem card_reachable_lt {nodes : Finset α} (inside : ∀ source target, edge source target →
      target ∈ nodes) (acyclic : ∀ node, ¬ Relation.TransGen edge node node) {source target : α}
    (linked : edge source target) :
    (reachable edge nodes target).card < (reachable edge nodes source).card := by
  apply Finset.card_lt_card
  rw [Finset.ssubset_iff_of_subset]
  · refine ⟨target, mem_reachable.mpr ⟨inside _ _ linked, .single linked⟩, ?_⟩
    intro circular
    exact acyclic target (mem_reachable.mp circular).2
  · intro node reached
    obtain ⟨listed, path⟩ := mem_reachable.mp reached
    exact mem_reachable.mpr ⟨listed, .head linked path⟩

end Ranks

namespace Prog

variable {σ ε γ : Type}

/-- A recursion finishes if every nested call has a lower rank. -/
theorem iterate_halts_of_rank {body : Body σ ε γ} {inv : σ → Prop} (rank : γ → Nat)
    (step : ∀ c (call : γ → Prog σ ε Unit), (∀ c', rank c' < rank c → Halts inv (call c')) →
      Halts inv (body call c))
    {depth : Nat} {c : γ} (enough : rank c < depth) : Halts inv (iterate body depth c) := by
  induction depth generalizing c with
  | zero => exact absurd enough (Nat.not_lt_zero _)
  | succ depth ih =>
      apply step c
      intro c' lower
      exact ih (by omega)

end Prog

/-! ## Queues -/

namespace Worklist

variable {σ α : Type} {step : σ → σ → Prop} {queue : σ → List α}

/-- A step takes one action out of the queue, from anywhere, and puts actions
that satisfy `fresh` at its end. -/
def Takes (queue : σ → List α) (fresh : α → α → Prop) (before after : σ) : Prop :=
  ∃ front action back queued, queue before = front ++ action :: back ∧
    queue after = front ++ back ++ queued ∧ ∀ other ∈ queued, fresh action other

/-- Every way of working off a queue ends, if an action queues only actions below
itself. -/
theorem wellFounded_of_takes {level : α → Nat}
    (takes : ∀ before after, step before after →
      Takes queue (fun action other => level other < level action) before after) :
    WellFounded fun after before => step before after := by
  let levels (state : σ) : Multiset Nat := ((queue state).map level : List Nat)
  have descends : ∀ after before, step before after →
      Relation.CutExpand (· < ·) (levels after) (levels before) := by
    intro after before stepped
    obtain ⟨front, action, back, queued, taken, left, below⟩ := takes before after stepped
    refine ⟨(queued.map level : List Nat), level action, ?_, ?_⟩
    · intro other member
      obtain ⟨new, listed, rfl⟩ := List.mem_map.mp (Multiset.mem_coe.mp member)
      exact below new listed
    · have before_eq : levels before = ((front.map level ++ level action :: back.map level :
          List Nat) : Multiset Nat) := by
        simp only [levels, taken, List.map_append, List.map_cons]
      have after_eq : levels after = ((front.map level ++ back.map level ++ queued.map level :
          List Nat) : Multiset Nat) := by
        simp only [levels, left, List.map_append]
      rw [before_eq, after_eq, ← Multiset.coe_singleton, Multiset.coe_add, Multiset.coe_add,
        Multiset.coe_eq_coe]
      have moved : (front.map level ++ back.map level ++ [level action]).Perm
          (front.map level ++ level action :: back.map level) := by
        rw [List.append_assoc]
        exact List.Perm.append_left _ List.perm_append_comm
      have last : (front.map level ++ back.map level ++ queued.map level ++ [level action]).Perm
          (front.map level ++ back.map level ++ [level action] ++ queued.map level) := by
        rw [List.append_assoc, List.append_assoc _ [level action]]
        exact List.perm_append_comm.append_left _
      exact last.trans (moved.append_right _)
  exact Subrelation.wf (descends _ _) (InvImage.wf levels wellFounded_lt.cutExpand)

/-- A queue that is worked off from its front, by steps that are possible as long
as it is not empty, comes to each of its actions. -/
theorem comes_to {inv : σ → Prop}
    (first : ∀ state, inv state → ∀ action rest, queue state = action :: rest →
      ∃ next queued, step state next ∧ queue next = rest ++ queued ∧ inv next)
    {state : σ} (holds : inv state) {action : α} (listed : action ∈ queue state) :
    ∃ next rest, Relation.ReflTransGen step state next ∧ inv next ∧
      queue next = action :: rest := by
  obtain ⟨front, back, split⟩ := List.append_of_mem listed
  induction front generalizing state back with
  | nil => exact ⟨state, back, .refl, holds, split⟩
  | cons head front ih =>
      obtain ⟨next, queued, stepped, left, holds'⟩ := first state holds head _ split
      have left : queue next = front ++ action :: (back ++ queued) := by
        rw [left]
        exact List.append_assoc ..
      obtain ⟨last, rest, steps, holds'', found⟩ :=
        ih holds' (by simp [left]) (back ++ queued) left
      exact ⟨last, rest, .head stepped steps, holds'', found⟩

end Worklist

end Rind
