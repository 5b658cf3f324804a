import Mathlib.Order.Defs.LinearOrder
import Mathlib.Data.List.Pairwise
import Mathlib.Tactic.Order

/-!
# Ordered association lists

A map with ordered keys, kept as the list of its entries in increasing key
order.  The representation is canonical: `Ordered` lists with the same entries
are equal, and iteration follows the key order.
-/

namespace Rind.OrderedFields

variable {κ ν : Type} [LinearOrder κ]

/-- The entries stand in strictly increasing key order. -/
def Ordered (fields : List (κ × ν)) : Prop := fields.Pairwise fun left right => left.1 < right.1

/-- Set the value of a key, keeping the order. -/
def insert (key : κ) (value : ν) : List (κ × ν) → List (κ × ν)
  | [] => [(key, value)]
  | (head, held) :: rest =>
      if key < head then
        (key, value) :: (head, held) :: rest
      else if key = head then
        (key, value) :: rest
      else
        (head, held) :: insert key value rest

@[simp] theorem lookup_insert_self (key : κ) (value : ν) (fields : List (κ × ν)) :
    (insert key value fields).lookup key = some value := by
  induction fields with
  | nil => simp [insert]
  | cons entry rest ih =>
      obtain ⟨head, held⟩ := entry
      rw [insert]
      split
      · simp
      · split
        · simp
        · rename_i different
          simpa [List.lookup_cons, beq_false_of_ne different] using ih

theorem lookup_insert_of_ne {key other : κ} (ne : other ≠ key) (value : ν)
    (fields : List (κ × ν)) :
    (insert key value fields).lookup other = fields.lookup other := by
  induction fields with
  | nil => simp [insert, List.lookup_cons, beq_false_of_ne ne]
  | cons entry rest ih =>
      obtain ⟨head, held⟩ := entry
      rw [insert]
      split
      · simp [List.lookup_cons, beq_false_of_ne ne]
      · split
        · rename_i same
          subst same
          simp [List.lookup_cons, beq_false_of_ne ne]
        · simp only [List.lookup_cons, ih]

theorem lookup_insert (key other : κ) (value : ν) (fields : List (κ × ν)) :
    (insert key value fields).lookup other =
      if other = key then some value else fields.lookup other := by
  split
  · rename_i same
    rw [same, lookup_insert_self]
  · rename_i ne
    exact lookup_insert_of_ne ne value fields

/-- An inserted entry is the new one or an old one. -/
theorem mem_insert {key : κ} {value : ν} {fields : List (κ × ν)} {entry : κ × ν}
    (member : entry ∈ insert key value fields) : entry = (key, value) ∨ entry ∈ fields := by
  induction fields with
  | nil => simpa [insert] using member
  | cons first rest ih =>
      obtain ⟨head, held⟩ := first
      rw [insert] at member
      split at member
      · simpa using member
      · split at member
        · rcases List.mem_cons.mp member with same | old
          · exact .inl same
          · exact .inr (by simp [old])
        · rcases List.mem_cons.mp member with same | old
          · exact .inr (by simp [same])
          · rcases ih old with new | old
            · exact .inl new
            · exact .inr (by simp [old])

theorem Ordered.insert {fields : List (κ × ν)} (ordered : Ordered fields) (key : κ) (value : ν) :
    Ordered (insert key value fields) := by
  induction fields with
  | nil => simp [OrderedFields.insert, Ordered]
  | cons entry rest ih =>
      obtain ⟨head, held⟩ := entry
      obtain ⟨first, tail⟩ := List.pairwise_cons.mp ordered
      rw [OrderedFields.insert]
      split
      · rename_i below
        refine List.pairwise_cons.mpr ⟨?_, ordered⟩
        intro other member
        rcases List.mem_cons.mp member with rfl | member
        · exact below
        · exact below.trans (first other member)
      · split
        · rename_i same
          subst same
          exact List.pairwise_cons.mpr ⟨first, tail⟩
        · rename_i notBelow different
          have above : head < key := lt_of_le_of_ne (not_lt.mp notBelow) (Ne.symm different)
          refine List.pairwise_cons.mpr ⟨?_, ih tail⟩
          intro other member
          rcases mem_insert member with rfl | member
          · exact above
          · exact first other member

omit [LinearOrder κ] in
/-- A successful lookup returns the value of a listed entry. -/
theorem mem_of_lookup [BEq κ] [LawfulBEq κ] {fields : List (κ × ν)} {key : κ} {value : ν}
    (found : fields.lookup key = some value) : (key, value) ∈ fields := by
  induction fields with
  | nil => contradiction
  | cons entry rest ih =>
      obtain ⟨head, held⟩ := entry
      rw [List.lookup_cons] at found
      cases same : key == head with
      | true =>
          rw [same] at found
          cases found
          simp [eq_of_beq same]
      | false =>
          rw [same] at found
          exact List.mem_cons_of_mem _ (ih found)

/-- In an ordered list every entry is the one its key looks up. -/
theorem Ordered.lookup_of_mem {fields : List (κ × ν)} (ordered : Ordered fields) {key : κ}
    {value : ν} (member : (key, value) ∈ fields) : fields.lookup key = some value := by
  induction fields with
  | nil => contradiction
  | cons entry rest ih =>
      obtain ⟨head, held⟩ := entry
      obtain ⟨first, tail⟩ := List.pairwise_cons.mp ordered
      rcases List.mem_cons.mp member with same | member
      · cases same
        simp
      · have below := first _ member
        simp only [List.lookup_cons, beq_false_of_ne (ne_of_gt below)]
        exact ih tail member

/-- The keys of an ordered list are distinct. -/
theorem Ordered.keys_nodup {fields : List (κ × ν)} (ordered : Ordered fields) :
    (fields.map Prod.fst).Nodup := by
  rw [List.Nodup, List.pairwise_map]
  exact ordered.imp fun below => ne_of_lt below

end Rind.OrderedFields
