import Mathlib.Data.List.Nodup

/-!
# Lists that are replaced or appended to

A list is written to in two ways: some writes put new items in the place of all that are
there, others append to them.  What is lost is what comes before a replacement.
-/

namespace Rind.Replacing

variable {α : Type}

/-- Some items, and whether they replace what is there. -/
structure Write (α : Type) where
  replaces : Bool
  items : List α
  deriving DecidableEq, Repr

/-- What a list is after a write. -/
def Write.apply (items : List α) (write : Write α) : List α :=
  if write.replaces then write.items else items ++ write.items

def replay (items : List α) (writes : List (Write α)) : List α := writes.foldl Write.apply items

/-- All that is written. -/
def written (writes : List (Write α)) : List α := writes.flatMap Write.items

/-- No write replaces anything. -/
def ReplacesNothing (items : List α) (writes : List (Write α)) : Prop :=
  ∀ before write after, writes = before ++ write :: after → write.replaces →
    items ++ written before = []

variable {items : List α} {write : Write α} {rest writes : List (Write α)}

@[simp] theorem replay_nil : replay items [] = items := rfl

@[simp] theorem replay_cons : replay items (write :: rest) = replay (write.apply items) rest := rfl

@[simp] theorem written_cons : written (write :: rest) = write.items ++ written rest := rfl

theorem written_append (first second : List (Write α)) :
    written (first ++ second) = written first ++ written second :=
  List.flatMap_append

/-- Nothing is there that has not been written. -/
theorem replay_sublist : (replay items writes).Sublist (items ++ written writes) := by
  induction writes generalizing items with
  | nil => simp [written]
  | cons write rest ih =>
      rw [replay_cons, written_cons, ← List.append_assoc]
      apply ih.trans
      apply List.Sublist.append_right
      rw [Write.apply]
      split
      · exact List.sublist_append_right _ _
      · exact List.Sublist.refl _

theorem replacesNothing_cons : ReplacesNothing items (write :: rest) ↔
    (write.replaces → items = []) ∧ ReplacesNothing (items ++ write.items) rest := by
  constructor
  · intro nothing
    constructor
    · intro replaces
      have empty := nothing [] write rest rfl replaces
      rwa [written, List.flatMap_nil, List.append_nil] at empty
    · rintro before other after rfl replaces
      have empty := nothing (write :: before) other after rfl replaces
      rwa [written_cons, ← List.append_assoc] at empty
  · rintro ⟨first, others⟩ before other after split replaces
    cases before with
    | nil =>
        cases split
        rw [first replaces]
        rfl
    | cons head before =>
        cases split
        rw [written_cons, ← List.append_assoc]
        exact others before other after rfl replaces

/-- Where no write replaces anything, all is there. -/
theorem replay_of_replacesNothing (nothing : ReplacesNothing items writes) :
    replay items writes = items ++ written writes := by
  induction writes generalizing items with
  | nil => simp [written]
  | cons write rest ih =>
      obtain ⟨first, others⟩ := replacesNothing_cons.mp nothing
      have applied : write.apply items = items ++ write.items := by
        rw [Write.apply]
        split
        · rename_i replaces
          rw [first replaces, List.nil_append]
        · rfl
      rw [replay_cons, applied, ih others, written_cons, List.append_assoc]

/-- Items that are all different are all there exactly where no write replaces any. -/
theorem keeps_iff (distinct : (items ++ written writes).Nodup) :
    (∀ item ∈ items ++ written writes, item ∈ replay items writes) ↔
      ReplacesNothing items writes := by
  constructor
  · intro kept before write after split replaces
    subst split
    rw [written_append, written_cons, ← List.append_assoc] at distinct kept
    have left : replay items (before ++ write :: after) = replay write.items after := by
      rw [replay, List.foldl_append, List.foldl_cons, Write.apply, if_pos replaces]
      rfl
    rw [List.eq_nil_iff_forall_not_mem]
    intro item early
    have late := replay_sublist.subset (left ▸ kept item (List.mem_append_left _ early))
    exact (List.nodup_append.mp distinct).2.2 item early item late rfl
  · intro nothing item listed
    rw [replay_of_replacesNothing nothing]
    exact listed

end Rind.Replacing
