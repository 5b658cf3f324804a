import Mathlib.Data.List.Basic
import Mathlib.Data.List.Sigma
import Mathlib.Order.Lattice

/-!
# Ranks in a stable order

A stable sort by a key puts each entry of a list to its rank.  That is the number of the
entries ahead of it: those with a smaller key, and those with the same key that stand
before it.
-/

namespace Rind.Ranking

section Positions

variable {β : Type}

/-- As many elements of a list in a strict order are before one as its position says. -/
theorem countP_of_pairwise {before : β → β → Bool}
    (asymm : ∀ first second, before first second → ¬ before second first) {entries : List β}
    (ordered : entries.Pairwise fun first second => before first second) {position : Nat}
    {entry : β} (found : entries[position]? = some entry) :
    entries.countP (before · entry) = position := by
  induction entries generalizing position with
  | nil => cases found
  | cons first rest ih =>
      obtain ⟨firstBefore, restOrdered⟩ := List.pairwise_cons.mp ordered
      cases position with
      | zero =>
          cases found
          have unordered : ¬ before entry entry := fun self => asymm entry entry self self
          rw [List.countP_cons, if_neg unordered, Nat.add_zero, List.countP_eq_zero]
          exact fun other inside => asymm entry other (firstBefore other inside)
      | succ position =>
          rw [List.getElem?_cons_succ] at found
          have leading : before first entry := firstBefore entry (List.mem_of_getElem? found)
          rw [List.countP_cons, if_pos leading, ih restOrdered found]

end Positions

variable {α κ : Type} [LinearOrder κ] (key : α → κ)

/-- An entry, with its place in the list, comes before another in the order of the keys. -/
def ahead (first second : α × Nat) : Bool :=
  decide (key first.1 < key second.1 ∨ key first.1 = key second.1 ∧ first.2 < second.2)

def rankOf (entries : List α) (entry : α × Nat) : Nat :=
  entries.zipIdx.countP (ahead key · entry)

/-- The entries in the order of their keys, in a stable way. -/
def sortByKey (entries : List α) : List α :=
  entries.mergeSort fun first second => decide (key first ≤ key second)

variable {key}

theorem ahead_iff {first second : α × Nat} : ahead key first second ↔
    key first.1 < key second.1 ∨ key first.1 = key second.1 ∧ first.2 < second.2 :=
  decide_eq_true_iff

theorem ahead_asymm (first second : α × Nat) (before : ahead key first second) :
    ¬ ahead key second first := by
  rw [ahead_iff] at before ⊢
  rintro (less | ⟨same, earlier⟩)
  · rcases before with less' | ⟨same', -⟩
    · exact lt_asymm less less'
    · exact ne_of_lt less same'.symm
  · rcases before with less' | ⟨-, earlier'⟩
    · exact ne_of_lt less' same.symm
    · exact Nat.lt_asymm earlier earlier'

theorem ahead_of_key_lt {first second other : α × Nat} (less : key first.1 < key second.1)
    (before : ahead key other first) : ahead key other second := by
  rw [ahead_iff] at before ⊢
  rcases before with less' | ⟨same, -⟩
  · exact .inl (lt_trans less' less)
  · exact .inl (same ▸ less)

/-- An entry with a smaller key has no larger rank. -/
theorem rankOf_le_of_key_lt (entries : List α) {first second : α × Nat}
    (less : key first.1 < key second.1) : rankOf key entries first ≤ rankOf key entries second :=
  List.countP_mono_left fun _ _ before => ahead_of_key_lt less before

/-- The entries in their order, with the places that they had. -/
def placed (key : α → κ) (entries : List α) : List (α × Nat) :=
  entries.zipIdx.mergeSort (List.zipIdxLE fun first second => decide (key first ≤ key second))

theorem map_placed (entries : List α) :
    (placed key entries).map Prod.fst = sortByKey key entries := List.mergeSort_zipIdx

variable (key) in
theorem placed_perm (entries : List α) : (placed key entries).Perm entries.zipIdx :=
  List.mergeSort_perm _ _

theorem pairwise_placed (entries : List α) :
    (placed key entries).Pairwise fun first second => ahead key first second := by
  have trans (a b c : α) : decide (key a ≤ key b) → decide (key b ≤ key c) →
      decide (key a ≤ key c) := by simpa using le_trans
  have total (a b : α) : decide (key a ≤ key b) || decide (key b ≤ key a) := by
    simpa using le_total (key a) (key b)
  have sorted := List.pairwise_mergeSort (List.zipIdxLE_trans trans) (List.zipIdxLE_total total)
    entries.zipIdx
  have distinct : (placed key entries).Pairwise fun first second => first.2 ≠ second.2 := by
    have places : ((placed key entries).map Prod.snd).Nodup :=
      ((placed_perm key entries).map Prod.snd).nodup_iff.mpr (List.nodup_zipIdx_map_snd entries)
    exact List.pairwise_map.mp places
  apply (List.Pairwise.and sorted distinct).imp
  rintro first second ⟨least, differs⟩
  rw [List.zipIdxLE] at least
  rw [ahead_iff]
  grind

/-- The entry at a position of the sorted list is the one whose rank that is. -/
theorem getElem?_sortByKey (entries : List α) (position : Nat) (name : α) :
    (sortByKey key entries)[position]? = some name ↔
      ∃ entry ∈ entries.zipIdx, entry.1 = name ∧ rankOf key entries entry = position := by
  have ranked (entry : α × Nat) (position : Nat)
      (found : (placed key entries)[position]? = some entry) :
      rankOf key entries entry = position := by
    rw [rankOf, ← (placed_perm key entries).countP_eq]
    exact countP_of_pairwise ahead_asymm (pairwise_placed entries) found
  rw [← map_placed, List.getElem?_map, Option.map_eq_some_iff]
  constructor
  · rintro ⟨entry, found, same⟩
    have listed := (placed_perm key entries).mem_iff.mp (List.mem_of_getElem? found)
    exact ⟨entry, listed, same, ranked entry position found⟩
  · rintro ⟨entry, listed, same, rfl⟩
    obtain ⟨position, found⟩ :=
      List.getElem?_of_mem ((placed_perm key entries).mem_iff.mpr listed)
    rw [ranked entry position found]
    exact ⟨entry, found, same⟩

end Rind.Ranking
