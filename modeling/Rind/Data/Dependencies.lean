import Mathlib.Data.Fintype.Card
import Mathlib.Data.List.Infix
import Mathlib.Data.Set.Finite.List
import Mathlib.Logic.Relation

/-!
# Orders of dependencies

Nodes need other nodes.  A list is ordered when each of its nodes comes after all that
it needs, and finitely many nodes can be ordered as far as no cycle lies behind them.
-/

namespace Rind.Dependencies

variable {α β : Type} {needs : α → α → Prop}

/-- Each node of a list comes after all the nodes that it needs. -/
def Ordered (needs : α → α → Prop) (order : List α) : Prop :=
  ∀ before node after, order = before ++ node :: after → ∀ other, needs node other → other ∈ before

/-- A node is on a cycle, or needs one, directly or through others. -/
def Stuck (needs : α → α → Prop) (node : α) : Prop :=
  ∃ other, Relation.ReflTransGen needs node other ∧ Relation.TransGen needs other other

/-- Where the keys of a list are distinct, a key tells its position. -/
theorem eq_of_key_eq {entries : List α} {key : α → β} (distinct : (entries.map key).Nodup)
    {first second : Fin entries.length} (same : key (entries.get first) = key (entries.get second)) :
    first = second := by
  apply Fin.ext
  have inside : first.1 < (entries.map key).length := by simp
  apply (List.getElem?_inj inside distinct).mp
  simpa using same

section Order

theorem Ordered.nil : Ordered needs [] := by
  intro before node after split
  cases before <;> cases split

theorem Ordered.append {order : List α} (ordered : Ordered needs order) {node : α}
    (ready : ∀ other, needs node other → other ∈ order) : Ordered needs (order ++ [node]) := by
  intro before last after split other needed
  cases after using List.reverseRecOn with
  | nil =>
      obtain ⟨rfl, same⟩ := List.append_inj' split rfl
      cases same
      exact ready other needed
  | append_singleton after final =>
      rw [← List.cons_append, ← List.append_assoc] at split
      obtain ⟨rfl, -⟩ := List.append_inj' split rfl
      exact ordered before last after rfl other needed

/-- Further nodes can follow that come after all they need. -/
theorem Ordered.append_of_forall {first second : List α} (ordered : Ordered needs first)
    (others : ∀ before node after, second = before ++ node :: after →
      ∀ other, needs node other → other ∈ first ++ before) : Ordered needs (first ++ second) := by
  induction second using List.reverseRecOn with
  | nil => rwa [List.append_nil]
  | append_singleton second last ih =>
      rw [← List.append_assoc]
      apply Ordered.append
      · apply ih
        rintro before node after rfl
        exact others before node (after ++ [last]) (by simp)
      · exact others second last [] rfl

/-- Nodes without needs can stand anywhere. -/
theorem Ordered.of_forall {order : List α}
    (free : ∀ node ∈ order, ∀ other, ¬ needs node other) : Ordered needs order := by
  rintro before node after rfl other needed
  exact absurd needed (free node (by simp) other)

/-- The first part of an ordered list. -/
theorem Ordered.left {order rest : List α} (ordered : Ordered needs (order ++ rest)) :
    Ordered needs order := by
  rintro before node after rfl other needed
  exact ordered before node (after ++ rest) (by simp) other needed

/-- Behind a node that is ordered there is no infinite descent. -/
theorem Ordered.acc {order : List α} (ordered : Ordered needs order) {node : α}
    (listed : node ∈ order) : Acc (flip needs) node := by
  induction order using List.reverseRecOn generalizing node with
  | nil => cases listed
  | append_singleton order last ih =>
      have earlier {node : α} (listed : node ∈ order) : Acc (flip needs) node :=
        ih ordered.left listed
      rcases List.mem_append.mp listed with old | new
      · exact earlier old
      · cases List.mem_singleton.mp new
        apply Acc.intro
        intro other needed
        exact earlier (ordered order _ [] rfl other needed)

end Order

section Cycles

/-- Where each of some nodes needs one of them again, the descent does not end. -/
theorem not_acc_of_forall (stuck : α → Prop)
    (again : ∀ node, stuck node → ∃ other, needs node other ∧ stuck other) {node : α}
    (holds : stuck node) : ¬ Acc (flip needs) node := by
  intro reached
  induction reached with
  | intro node _ ih =>
      obtain ⟨other, needed, holds'⟩ := again node holds
      exact ih other needed holds'

theorem Stuck.not_acc {node : α} (stuck : Stuck needs node) : ¬ Acc (flip needs) node := by
  apply not_acc_of_forall (Stuck needs) _ stuck
  rintro node ⟨other, path, circle⟩
  rcases path.cases_head with rfl | ⟨next, needed, rest⟩
  · obtain ⟨next, needed, rest⟩ := Relation.TransGen.head'_iff.mp circle
    exact ⟨next, needed, node, rest, circle⟩
  · exact ⟨next, needed, other, rest, circle⟩

/-- Of finitely many nodes, those from which the descent ends are the ones without a
cycle behind them. -/
theorem acc_iff_not_stuck (nodes : List α) (inside : ∀ node other, needs node other → other ∈ nodes)
    (node : α) : Acc (flip needs) node ↔ ¬ Stuck needs node := by
  constructor
  · intro reached stuck
    exact stuck.not_acc reached
  · intro free
    let behind := {other : α // Relation.ReflTransGen needs node other}
    let below (first second : behind) : Prop := Relation.TransGen needs second.1 first.1
    have finite_ : Finite behind := by
      apply Set.Finite.subset (List.finite_toSet (node :: nodes))
      intro other path
      rcases path.cases_tail with rfl | ⟨last, -, needed⟩
      · exact List.mem_cons_self
      · exact List.mem_cons_of_mem _ (inside last other needed)
    have trans_ : IsTrans behind below := ⟨fun _ _ _ first second => second.trans first⟩
    have irrefl_ : Std.Irrefl below := ⟨fun other circle => free ⟨other.1, other.2, circle⟩⟩
    have ends := Finite.wellFounded_of_trans_of_irrefl below
    have acc_behind (other : behind) : Acc (flip needs) other.1 := by
      induction other using ends.induction with
      | _ other ih =>
          apply Acc.intro
          intro next needed
          exact ih ⟨next, other.2.tail needed⟩ (.single needed)
    exact acc_behind ⟨node, .refl⟩

/-- An order of some nodes, outside of which each node needs another one outside: it has
exactly the nodes without a cycle behind them. -/
theorem Ordered.mem_iff_not_stuck {order nodes : List α} (ordered : Ordered needs order)
    (inside : ∀ node other, needs node other → other ∈ nodes)
    (stays : ∀ node ∈ nodes, node ∉ order → ∃ other, needs node other ∧ other ∉ order)
    {node : α} (listed : node ∈ nodes) : node ∈ order ↔ ¬ Stuck needs node := by
  rw [← acc_iff_not_stuck nodes inside]
  constructor
  · exact ordered.acc
  · intro ends
    by_contra out
    apply not_acc_of_forall (fun node => node ∈ nodes ∧ node ∉ order) _ ⟨listed, out⟩ ends
    rintro node ⟨listed, out⟩
    obtain ⟨other, needed, out'⟩ := stays node listed out
    exact ⟨other, needed, inside node other needed, out'⟩

end Cycles

end Rind.Dependencies
