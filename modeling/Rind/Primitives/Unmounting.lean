import Rind.Primitives.Mounting

/-!
# Unmounting

A mount is unmounted after all mounts that come after it.  Those that are on a cycle, or
that a mount on a cycle comes after, stay and are logged.
-/

namespace Rind.UnitMounts

variable (mounts : UnitMounts)

/-- The mounts that come after a mount are unmounted before it. -/
def WaitsFor (idx other : mounts.Idx) : Prop := mounts.DependsOn other idx

variable {mounts}

/-! ## Dependents -/

/-- The mounts that come after each target, as far as they are entered. -/
def Enters (dependents : AList fun _ : Ustr => List Ustr) (entries : UnitMounts) : Prop :=
  ∀ target, (target ∈ dependents ↔ ∃ entry ∈ entries, target ∈ entry.2.after.getD []) ∧
    ∀ name, name ∈ (dependents.lookup target).getD [] ↔
      ∃ entry ∈ entries, target ∈ entry.2.after.getD [] ∧ entry.2.target = name

theorem foldl_dependents (afters : List Ustr) (name : Ustr)
    (dependents : AList fun _ : Ustr => List Ustr) (target : Ustr) :
    let entered := afters.foldl (fun dependents after =>
      dependents.insert after ((dependents.lookup after).getD [] ++ [name])) dependents
    (target ∈ entered ↔ target ∈ dependents ∨ target ∈ afters) ∧
      ∀ other, other ∈ (entered.lookup target).getD [] ↔
        other ∈ (dependents.lookup target).getD [] ∨ target ∈ afters ∧ name = other := by
  induction afters generalizing dependents with
  | nil => simp
  | cons after rest ih =>
      obtain ⟨known, listed⟩ := ih
        (dependents.insert after ((dependents.lookup after).getD [] ++ [name]))
      dsimp only at known listed ⊢
      rw [List.foldl_cons]
      constructor
      · rw [known, AList.mem_insert, List.mem_cons, or_assoc, or_left_comm]
      · intro other
        rw [listed]
        by_cases same : target = after
        · subst same
          rw [AList.lookup_insert, Option.getD_some, List.mem_append, List.mem_singleton, or_assoc,
            @eq_comm _ other, and_iff_right List.mem_cons_self]
          exact or_congr_right (or_iff_left_of_imp And.right)
        · rw [AList.lookup_insert_ne same]
          simp [same]

theorem dependents_enters (mounts : UnitMounts) : Enters mounts.dependents mounts := by
  induction mounts using List.reverseRecOn with
  | nil =>
      intro target
      simp [dependents]
  | append_singleton mounts last ih =>
      intro target
      have split : dependents (mounts ++ [last]) = (last.2.after.getD []).foldl
          (fun dependents after =>
            dependents.insert after ((dependents.lookup after).getD [] ++ [last.2.target]))
          (dependents mounts) := by
        rw [dependents, List.foldl_append]
        rfl
      obtain ⟨known, listed⟩ := foldl_dependents (last.2.after.getD []) last.2.target
        (dependents mounts) target
      obtain ⟨known', listed'⟩ := ih target
      rw [split]
      constructor
      · rw [known, known']
        simp [or_and_right, exists_or]
      · intro name
        rw [listed, listed']
        simp [or_and_right, exists_or]

theorem waitsToUnmount_eq_none {idx : mounts.Idx} :
    waitsToUnmount idx = none ↔ ∀ other, ¬ mounts.WaitsFor idx other := by
  rw [waitsToUnmount, Option.map_eq_none_iff, AList.lookup_eq_none,
    (dependents_enters mounts _).1]
  constructor
  · intro none_ other depends
    exact none_ ⟨_, List.get_mem mounts other, depends⟩
  · rintro none_ ⟨entry, listed, depends⟩
    obtain ⟨other, rfl⟩ := List.mem_iff_get.mp listed
    exact none_ other depends

/-- What a mount waits for to be unmounted. -/
theorem of_waitsToUnmount {idx : mounts.Idx} {pending : Pending mounts}
    (waits : waitsToUnmount idx = some pending) :
    pending.idx = idx ∧ pending.name = (mounts.mount idx).target ∧
      ∀ name, name ∈ pending.waitsFor ↔
        ∃ other, mounts.WaitsFor idx other ∧ (mounts.mount other).target = name := by
  obtain ⟨deps, found, rfl⟩ := Option.map_eq_some_iff.mp waits
  refine ⟨rfl, rfl, fun name => ?_⟩
  have listed := (dependents_enters mounts (mounts.mount idx).target).2 name
  rw [found, Option.getD_some] at listed
  rw [listed]
  constructor
  · rintro ⟨entry, member, depends, rfl⟩
    obtain ⟨other, rfl⟩ := List.mem_iff_get.mp member
    exact ⟨other, depends, rfl⟩
  · rintro ⟨other, depends, rfl⟩
    exact ⟨_, List.get_mem mounts other, depends, rfl⟩

theorem idx_of_waitsToUnmount (idx : mounts.Idx) (pending : Pending mounts)
    (waits : waitsToUnmount idx = some pending) : pending.idx = idx :=
  (of_waitsToUnmount waits).1

/-! ## The order -/

/-- Unmounting ends. A mount is unmounted after all mounts that come after it, once, if it is
not on a cycle or below one, and the others are logged. -/
def Unmounts (mounts : UnitMounts) (limit : Nat) : Prop :=
  ∃ done, unmountUnits limit (Progress.start mounts) = some (.ok (), done) ∧
    Dependencies.Ordered mounts.WaitsFor done.calls ∧ done.calls.Nodup ∧
    (∀ idx, idx ∈ done.calls ↔ ¬ Dependencies.Stuck mounts.WaitsFor idx) ∧
    ∀ name, (∃ fields, done.unresolved = some fields ∧ name ∈ fields) ↔
      ∃ idx, (mounts.mount idx).target = name ∧ Dependencies.Stuck mounts.WaitsFor idx

theorem umountTarget_succeeds : Succeeds (@umountTarget mounts) := fun _ _ => rfl

section Distinct

variable {gone left : List (Pending mounts)} {done : Progress mounts}
  (distinct : ∀ idx other, (mounts.mount idx).target = (mounts.mount other).target → idx = other)
  (whole : Whole waitsToUnmount gone left done)

include distinct whole

/-- The targets that count as unmounted are those of the calls. -/
theorem target_finished_iff (idx : mounts.Idx) : ((∃ other ∈ free waitsToUnmount mounts.places,
    (mounts.mount other).target = (mounts.mount idx).target) ∨
      (mounts.mount idx).target ∈ gone.map Pending.name) ↔ idx ∈ done.calls := by
  rw [whole.calls, List.mem_append, List.mem_map, List.mem_map]
  apply or_congr
  · constructor
    · rintro ⟨other, listed, same⟩
      rwa [← distinct other idx same]
    · exact fun listed => ⟨idx, listed, rfl⟩
  · apply exists_congr
    intro pending
    apply and_congr_right
    intro listed
    obtain ⟨other, waits⟩ := whole.waiting_eq (.inl listed)
    obtain ⟨rfl, name, -⟩ := of_waitsToUnmount waits
    rw [name]
    exact ⟨distinct _ _, congrArg fun idx => (mounts.mount idx).target⟩

theorem ordered_calls : Dependencies.Ordered mounts.WaitsFor done.calls := by
  rw [whole.calls]
  apply Dependencies.Ordered.append_of_forall
  · apply Dependencies.Ordered.of_forall
    intro idx listed
    exact waitsToUnmount_eq_none.mp (Option.isNone_iff_eq_none.mp (List.mem_filter.mp listed).2)
  · intro before idx after split other needed
    obtain ⟨first, rest, rfl, rfl, mapped⟩ := List.map_eq_append_iff.mp split
    obtain ⟨pending, second, rfl, same, rfl⟩ := List.map_eq_cons_iff.mp mapped
    have listed : pending ∈ first ++ pending :: second := by simp
    obtain ⟨place, waits⟩ := whole.waiting_eq (.inl listed)
    obtain ⟨rfl, -, names⟩ := of_waitsToUnmount waits
    rw [← same] at needed
    rw [List.mem_append]
    rcases whole.supplied.earlier ((names _).mpr ⟨other, needed, rfl⟩) with
      ⟨free_, listed, same⟩ | ⟨earlier, listed, same⟩
    · rw [← distinct free_ other same]
      exact .inl listed
    · obtain ⟨place, waits⟩ := whole.waiting_eq (.inl (List.mem_append_left _ listed))
      obtain ⟨rfl, name, -⟩ := of_waitsToUnmount waits
      rw [← distinct earlier.idx other (name.symm.trans same)]
      exact .inr (List.mem_map_of_mem listed)

theorem mem_calls_iff (idx : mounts.Idx) :
    idx ∈ done.calls ↔ ¬ Dependencies.Stuck mounts.WaitsFor idx := by
  have ordered := ordered_calls distinct whole
  apply ordered.mem_iff_not_stuck (fun _ other _ => List.mem_finRange other) _
    (List.mem_finRange idx)
  intro idx _ out
  obtain ⟨pending, listed, rfl⟩ :=
    List.mem_map.mp ((whole.mem_left_iff idx_of_waitsToUnmount idx).mpr out)
  obtain ⟨idx, waits⟩ := whole.waiting_eq (.inr listed)
  obtain ⟨rfl, -, names⟩ := of_waitsToUnmount waits
  obtain ⟨needed, wanted, unknown⟩ := whole.waits pending listed
  obtain ⟨other, needed, rfl⟩ := (names needed).mp wanted
  exact ⟨other, needed, mt (target_finished_iff distinct whole other).mpr unknown⟩

end Distinct

theorem unmountUnits_unmounts (mounts : UnitMounts)
    (distinct : (mounts.map fun entry => entry.2.target).Nodup) (limit : Nat)
    (enough : mounts.length < limit) : mounts.Unmounts limit := by
  have distinct' (idx other : mounts.Idx)
      (same : (mounts.mount idx).target = (mounts.mount other).target) : idx = other :=
    Dependencies.eq_of_key_eq distinct same
  obtain ⟨gone, left, done, ran, whole⟩ := whole_spec waitsToUnmount
    umountTarget_succeeds umountTarget_succeeds (fun _ _ _ _ => rfl) enough
  have called_iff := mem_calls_iff distinct' whole
  refine ⟨done, ran, ordered_calls distinct' whole, whole.nodup_calls idx_of_waitsToUnmount, called_iff,
    fun name => ?_⟩
  rw [whole.mem_unresolved]
  constructor
  · rintro ⟨pending, listed, rfl⟩
    obtain ⟨idx, waits⟩ := whole.waiting_eq (.inr listed)
    obtain ⟨rfl, name, -⟩ := of_waitsToUnmount waits
    refine ⟨pending.idx, name.symm, not_not.mp (mt (called_iff _).mpr ?_)⟩
    exact (whole.mem_left_iff idx_of_waitsToUnmount _).mp (List.mem_map_of_mem listed)
  · rintro ⟨idx, rfl, stuck⟩
    have out : idx ∉ done.calls := fun called => (called_iff idx).mp called stuck
    obtain ⟨pending, listed, rfl⟩ := List.mem_map.mp ((whole.mem_left_iff idx_of_waitsToUnmount idx).mpr out)
    obtain ⟨idx, waits⟩ := whole.waiting_eq (.inr listed)
    obtain ⟨rfl, name, -⟩ := of_waitsToUnmount waits
    exact ⟨pending, listed, name⟩

/-- A mount below another one, and two that wait for each other. -/
def homeMounts : UnitMounts :=
  [("rind", ⟨"/home", none, none, false⟩), ("rind", ⟨"/home/a", none, some ["/home"], false⟩),
    ("rind", ⟨"/x", none, some ["/y"], false⟩), ("rind", ⟨"/y", none, some ["/x"], false⟩)]

theorem unmounts_homeMounts : homeMounts.Unmounts 5 :=
  unmountUnits_unmounts homeMounts (by decide) 5 (by decide)

end Rind.UnitMounts
