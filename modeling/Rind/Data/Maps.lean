import Mathlib.Data.List.AList
import Mathlib.Data.List.Induction

/-!
# Maps

Operations on association lists that the models of hash maps use: keeping some
of the keys, and writing a list of entries.
-/

namespace Rind.Maps

variable {α β γ : Type} [DecidableEq α]

/-- Keep the entries whose keys pass a test. -/
def retain (keep : α → Bool) (map : AList fun _ : α => β) : AList fun _ : α => β where
  entries := map.entries.filter fun entry => keep entry.1
  nodupKeys := by
    have keys : ((map.entries.filter fun entry => keep entry.1).map Sigma.fst).Sublist
        (map.entries.map Sigma.fst) := List.filter_sublist.map _
    exact List.Nodup.sublist keys map.nodupKeys

theorem lookup_retain (keep : α → Bool) (map : AList fun _ : α => β) (key : α) :
    (retain keep map).lookup key = if keep key then map.lookup key else none := by
  obtain ⟨entries, nodup⟩ := map
  change (entries.filter fun entry => keep entry.1).dlookup key =
    if keep key then entries.dlookup key else none
  clear nodup
  induction entries with
  | nil => simp
  | cons entry rest ih =>
      obtain ⟨first, value⟩ := entry
      by_cases same : first = key
      · subst same
        cases kept : keep first <;> simp [kept, ih]
      · have apart : key ≠ (⟨first, value⟩ : (_ : α) × β).1 := Ne.symm same
        cases kept : keep first <;> simp [kept, ih, List.dlookup_cons_ne _ _ apart]

theorem mem_retain {keep : α → Bool} {map : AList fun _ : α => β} {key : α} :
    key ∈ retain keep map ↔ keep key ∧ key ∈ map := by
  rw [← AList.lookup_isSome, ← AList.lookup_isSome, lookup_retain]
  cases keep key <;> simp

/-- The entries of which a part is there. -/
def select (part : β → Option γ) (map : AList fun _ : α => β) : AList fun _ : α => γ where
  entries := map.entries.filterMap fun entry => (part entry.2).map (⟨entry.1, ·⟩)
  nodupKeys := by
    have keys : ((map.entries.filterMap fun entry =>
        (part entry.2).map fun value => (⟨entry.1, value⟩ : (_ : α) × γ)).map Sigma.fst).Sublist
        (map.entries.map Sigma.fst) := by
      induction map.entries with
      | nil => exact List.Sublist.slnil
      | cons entry rest ih =>
          cases found : part entry.2 with
          | none =>
              rw [List.filterMap_cons_none (by rw [found]; rfl), List.map_cons]
              exact ih.cons _
          | some value =>
              rw [List.filterMap_cons_some (by rw [found]; rfl), List.map_cons, List.map_cons]
              exact ih.cons_cons _
    exact List.Nodup.sublist keys map.nodupKeys

theorem lookup_select (part : β → Option γ) (map : AList fun _ : α => β) (key : α) :
    (select part map).lookup key = (map.lookup key).bind part := by
  obtain ⟨entries, nodup⟩ := map
  change (entries.filterMap fun entry =>
    (part entry.2).map fun value => (⟨entry.1, value⟩ : (_ : α) × γ)).dlookup key =
      (entries.dlookup key).bind part
  induction entries with
  | nil => rfl
  | cons entry rest ih =>
      obtain ⟨first, value⟩ := entry
      have others := ih (List.nodupKeys_cons.mp nodup).2
      by_cases same : first = key
      · subst same
        have absent : rest.dlookup first = none :=
          List.dlookup_eq_none.mpr (List.nodupKeys_cons.mp nodup).1
        rw [List.dlookup_cons_eq, Option.bind_some]
        cases found : part value with
        | none => rw [List.filterMap_cons_none (by rw [found]; rfl), others, absent, Option.bind_none]
        | some selected =>
            rw [List.filterMap_cons_some (by rw [found]; rfl), List.dlookup_cons_eq]
      · rw [List.dlookup_cons_ne _ _ (Ne.symm same), ← others]
        cases found : part value with
        | none => rw [List.filterMap_cons_none (by rw [found]; rfl)]
        | some selected =>
            rw [List.filterMap_cons_some (by rw [found]; rfl),
              List.dlookup_cons_ne _ _ (Ne.symm same)]

/-- Write an entry for each item of a list. -/
def insertAll (key : γ → α) (value : γ → β) (items : List γ) (map : AList fun _ : α => β) :
    AList fun _ : α => β :=
  items.foldl (fun map item => map.insert (key item) (value item)) map

section InsertAll

variable {key : γ → α} {value : γ → β}

theorem lookup_insertAll_of_forall_ne {items : List γ} {map : AList fun _ : α => β} {name : α}
    (apart : ∀ item ∈ items, key item ≠ name) :
    (insertAll key value items map).lookup name = map.lookup name := by
  induction items generalizing map with
  | nil => rfl
  | cons item rest ih =>
      obtain ⟨first, others⟩ := List.forall_mem_cons.mp apart
      rw [insertAll, List.foldl_cons, ← insertAll, ih others, AList.lookup_insert_ne first.symm]

theorem mem_insertAll {items : List γ} {map : AList fun _ : α => β} {name : α} :
    name ∈ insertAll key value items map ↔ name ∈ map ∨ ∃ item ∈ items, key item = name := by
  induction items generalizing map with
  | nil => simp [insertAll]
  | cons item rest ih =>
      rw [insertAll, List.foldl_cons, ← insertAll, ih, AList.mem_insert]
      simp [eq_comm, or_assoc, or_left_comm]

/-- Where the items of a key agree on its value, that value is written. -/
theorem lookup_insertAll {items : List γ} {map : AList fun _ : α => β} {name : α} {result : β}
    (written : ∃ item ∈ items, key item = name)
    (agree : ∀ item ∈ items, key item = name → value item = result) :
    (insertAll key value items map).lookup name = some result := by
  induction items generalizing map with
  | nil => simp at written
  | cons first rest ih =>
      obtain ⟨agreeFirst, agreeRest⟩ := List.forall_mem_cons.mp agree
      rw [insertAll, List.foldl_cons, ← insertAll]
      by_cases later : ∃ item ∈ rest, key item = name
      · exact ih later agreeRest
      · have apart : ∀ item ∈ rest, key item ≠ name := by
          intro item member same
          exact later ⟨item, member, same⟩
        have same : key first = name := by
          obtain ⟨item, member, same⟩ := written
          rcases List.mem_cons.mp member with rfl | member
          · exact same
          · exact absurd same (apart item member)
        rw [lookup_insertAll_of_forall_ne apart, same, AList.lookup_insert, agreeFirst same]

/-- The last item of a key gives its value. -/
theorem lookup_insertAll_eq {items : List γ} {map : AList fun _ : α => β} {name : α} :
    (insertAll key value items map).lookup name =
      (((items.filter fun item => key item = name).getLast?).map value).or (map.lookup name) := by
  induction items using List.reverseRecOn with
  | nil => rfl
  | append_singleton items last ih =>
      have written : insertAll key value (items ++ [last]) map =
          (insertAll key value items map).insert (key last) (value last) := by
        rw [insertAll, List.foldl_append]
        rfl
      rw [written, List.filter_append]
      by_cases same : key last = name
      · subst same
        simp
      · rw [AList.lookup_insert_ne (Ne.symm same), ih]
        simp [same]

end InsertAll

end Rind.Maps
